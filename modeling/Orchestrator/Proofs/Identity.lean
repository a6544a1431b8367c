import Mathlib.Algebra.GroupWithZero.Nat
import Orchestrator.Pack
import Orchestrator.Proofs.Dict
import Orchestrator.Proofs.Text.Digits
import Orchestrator.Proofs.Text.Utf8

/-!
What the identifier of a pack tells. The digested bytes are a bare sequence of texts, each with its
length in front, and nothing says how many there are; still they can be taken apart in one way only.
So the bytes give back the name and the labels, and the identifier does as long as the digest tells
the bytes apart.
-/

namespace Orchestrator

/-! ## Digests -/

namespace Sha256

theorem length_bigEndian (count n : Nat) : (bigEndian count n).length = count := by
  simp [bigEndian]

theorem bigEndian_succ (count n : Nat) :
    bigEndian (count + 1) n = UInt8.ofNat (n / 256 ^ count % 256) :: bigEndian count n := by
  simp [bigEndian, List.range_succ]

/-- So many octets tell a number as far as they can hold it. -/
theorem bigEndian_eq_iff {count m n : Nat} :
    bigEndian count m = bigEndian count n ↔ m % 256 ^ count = n % 256 ^ count := by
  induction count with
  | zero => simp [bigEndian, Nat.mod_one]
  | succ count ih =>
      have hdigit (k : Nat) : (UInt8.ofNat (k / 256 ^ count % 256)).toNat = k / 256 ^ count % 256 :=
        UInt8.toNat_ofNat_of_lt (Nat.mod_lt _ (by decide))
      rw [bigEndian_succ, bigEndian_succ, List.cons.injEq, ih, ← UInt8.toNat_inj, hdigit, hdigit,
        Nat.mod_pow_succ, Nat.mod_pow_succ]
      constructor
      · rintro ⟨hfirst, hrest⟩
        rw [hfirst, hrest]
      · intro hall
        -- The lower digits are what is left of a number when the highest one is taken away.
        have hrest : m % 256 ^ count = n % 256 ^ count := by
          have hlower := congrArg (· % 256 ^ count) hall
          simpa only [Nat.add_mul_mod_self_left, Nat.mod_mod] using hlower
        refine ⟨?_, hrest⟩
        rw [hrest] at hall
        exact Nat.eq_of_mul_eq_mul_left (Nat.pow_pos (by decide)) (Nat.add_left_cancel hall)

theorem bigEndian_inj {count m n : Nat} (hm : m < 256 ^ count) (hn : n < 256 ^ count)
    (h : bigEndian count m = bigEndian count n) : m = n := by
  rwa [bigEndian_eq_iff, Nat.mod_eq_of_lt hm, Nat.mod_eq_of_lt hn] at h

theorem hexDigits_inj {bytes bytes' : List UInt8}
    (h : bytes.flatMap (fun b => Text.hexPair b.toNat) =
      bytes'.flatMap fun b => Text.hexPair b.toNat) : bytes = bytes' := by
  induction bytes generalizing bytes' with
  | nil =>
      cases bytes' with
      | nil => rfl
      | cons b' rest' => cases h
  | cons b rest ih =>
      cases bytes' with
      | nil => cases h
      | cons b' rest' =>
          obtain ⟨hpair, hrest⟩ := List.append_inj h rfl
          have hb : b.toNat = b'.toNat := Text.hexPair_inj b.toNat_lt b'.toNat_lt hpair
          rw [UInt8.toNat_inj.1 hb, ih hrest]

theorem hexDigest_eq_iff {message message' : List UInt8} :
    hexDigest message = hexDigest message' ↔ digest message = digest message' := by
  unfold hexDigest
  constructor
  · exact fun h => hexDigits_inj (String.ofList_injective h)
  · exact fun h => by rw [h]

/-- Two messages do not collide. -/
def TellsApart (message message' : List UInt8) : Prop :=
  digest message = digest message' → message = message'

theorem TellsApart.hexDigest_eq_iff {message message' : List UInt8}
    (h : TellsApart message message') :
    hexDigest message = hexDigest message' ↔ message = message' := by
  rw [Sha256.hexDigest_eq_iff]
  exact ⟨h, congrArg digest⟩

end Sha256

/-! ## Bytes of packs -/

namespace Pack

/-- Eight octets hold the length of the text. -/
def IsShort (s : String) : Prop := s.utf8ByteSize < 2 ^ 64

instance (s : String) : Decidable (IsShort s) := inferInstanceAs (Decidable (_ < _))

/-- Eight octets hold the length of the name and that of every key and value. -/
structure AllShort (name : String) (labels : Labels) : Prop where
  name : IsShort name
  labels : ∀ key value, labels.get? key = some value → IsShort key ∧ IsShort value

theorem framed_append_inj {s t : String} {rest rest' : List UInt8} (hs : IsShort s)
    (ht : IsShort t) (h : framed s ++ rest = framed t ++ rest') : s = t ∧ rest = rest' := by
  simp only [framed, List.append_assoc] at h
  obtain ⟨hlength, h⟩ := List.append_inj h (by simp only [Sha256.length_bigEndian])
  replace hlength : (Utf8.octets s).length = (Utf8.octets t).length := by
    refine Sha256.bigEndian_inj ?_ ?_ hlength
    · rw [Utf8.length_octets]
      exact hs
    · rw [Utf8.length_octets]
      exact ht
  obtain ⟨hoctets, hrest⟩ := List.append_inj h hlength
  exact ⟨Utf8.octets_inj hoctets, hrest⟩

theorem framed_ne_nil (s : String) : framed s ≠ [] := by
  have hlength := Sha256.length_bigEndian 8 (Utf8.octets s).length
  intro h
  rw [(List.append_eq_nil_iff.1 h).1] at hlength
  cases hlength

/-- A label as it is digested. -/
def framedLabel (label : String × String) : List UInt8 := framed label.1 ++ framed label.2

/-- The end of the bytes is the end of the labels, since a label never comes to no bytes at all. -/
theorem flatMap_framedLabel_inj {labels labels' : List (String × String)}
    (h : ∀ label ∈ labels, IsShort label.1 ∧ IsShort label.2)
    (h' : ∀ label ∈ labels', IsShort label.1 ∧ IsShort label.2)
    (heq : labels.flatMap framedLabel = labels'.flatMap framedLabel) : labels = labels' := by
  have hne (label : String × String) (rest : List (String × String)) :
      (label :: rest).flatMap framedLabel ≠ [] := by
    simp [framedLabel, framed_ne_nil]
  induction labels generalizing labels' with
  | nil =>
      cases labels' with
      | nil => rfl
      | cons label' rest' => exact absurd heq.symm (hne label' rest')
  | cons label rest ih =>
      cases labels' with
      | nil => exact absurd heq (hne label rest)
      | cons label' rest' =>
          obtain ⟨hshort, hrest⟩ := List.forall_mem_cons.1 h
          obtain ⟨hshort', hrest'⟩ := List.forall_mem_cons.1 h'
          simp only [List.flatMap_cons, framedLabel, List.append_assoc] at heq
          obtain ⟨hkey, heq⟩ := framed_append_inj hshort.1 hshort'.1 heq
          obtain ⟨hvalue, heq⟩ := framed_append_inj hshort.2 hshort'.2 heq
          rw [Prod.ext hkey hvalue, ih hrest hrest' heq]

theorem identity_eq_iff {name name' : String} {labels labels' : Labels}
    (h : AllShort name labels) (h' : AllShort name' labels') :
    identity name labels = identity name' labels' ↔ name = name' ∧ labels = labels' := by
  constructor
  · intro heq
    obtain ⟨hname, heq⟩ := framed_append_inj h.name h'.name heq
    refine ⟨hname, Dict.ext_entries (flatMap_framedLabel_inj ?_ ?_ heq)⟩
    · exact fun label hlabel => h.labels _ _ (Dict.mem_entries.1 hlabel)
    · exact fun label hlabel => h'.labels _ _ (Dict.mem_entries.1 hlabel)
  · rintro ⟨rfl, rfl⟩
    rfl

theorem deriveId_eq_iff {name name' : String} {labels labels' : Labels}
    (h : AllShort name labels) (h' : AllShort name' labels')
    (hdigest : Sha256.TellsApart (identity name labels) (identity name' labels')) :
    deriveId name labels = deriveId name' labels' ↔ name = name' ∧ labels = labels' := by
  rw [deriveId, deriveId, hdigest.hexDigest_eq_iff, identity_eq_iff h h']

/-- The labels are what is left when labels are put in one after the other: of each key, what is put
in last. -/
def LeftBy (inserted : List (String × String)) (labels : Labels) : Prop :=
  ∀ key, labels.get? key = inserted.reverse.lookup key

theorem ofList_of_leftBy {inserted : List (String × String)} {labels : Labels}
    (h : LeftBy inserted labels) : Dict.ofList inserted = labels :=
  Dict.ext_get? fun key => (Dict.get?_ofList_eq_lookup inserted key).trans (h key).symm

/-- Packs are digested from the same bytes exactly if they have the same name and the same labels. So
they have the same identifier exactly if they have the same name and labels, unless the digest fails
to tell their bytes apart; in which order the labels were put in makes no difference. -/
theorem identifier_tells_packs_apart {name name' : String} {labels labels' : Labels}
    (h : AllShort name labels) (h' : AllShort name' labels') :
    (identity name labels = identity name' labels' ↔ name = name' ∧ labels = labels') ∧
      (Sha256.TellsApart (identity name labels) (identity name' labels') →
        (deriveId name labels = deriveId name' labels' ↔ name = name' ∧ labels = labels') ∧
        ∀ inserted inserted' now now', LeftBy inserted labels → LeftBy inserted' labels' →
          ((new name (.ofList inserted) now).id = (new name' (.ofList inserted') now').id ↔
            name = name' ∧ labels = labels')) := by
  refine ⟨identity_eq_iff h h', fun hdigest => ⟨deriveId_eq_iff h h' hdigest, ?_⟩⟩
  intro inserted inserted' now now' hleft hleft'
  rw [ofList_of_leftBy hleft, ofList_of_leftBy hleft']
  exact deriveId_eq_iff h h' hdigest

theorem allShort_ofList {name : String} {inserted : List (String × String)}
    (hname : IsShort name) (h : ∀ label ∈ inserted, IsShort label.1 ∧ IsShort label.2) :
    AllShort name (.ofList inserted) :=
  ⟨hname, fun _ _ hlabel => h _ (Dict.mem_of_get?_ofList hlabel)⟩

/-- The letters of a key and its value stand in the same order, and only the lengths in between tell
where the key ends. -/
theorem slack_by_its_labels :
    let ab : Labels := .ofList [("ab", "c")]
    let a : Labels := .ofList [("a", "bc")]
    AllShort "Slack" ab ∧ AllShort "Slack" a ∧ identity "Slack" ab ≠ identity "Slack" a ∧
      deriveId "Slack" ab ≠ deriveId "Slack" a := by
  intro ab a
  have hab : AllShort "Slack" ab := allShort_ofList (by decide) (by decide)
  have ha : AllShort "Slack" a := allShort_ofList (by decide) (by decide)
  have hne : ab ≠ a := by decide
  have hdigest : Sha256.TellsApart (identity "Slack" ab) (identity "Slack" a) := by
    have hdiffer : Sha256.digest (identity "Slack" ab) ≠ Sha256.digest (identity "Slack" a) := by
      decide +kernel
    exact fun hsame => absurd hsame hdiffer
  obtain ⟨hbytes, hid⟩ := identifier_tells_packs_apart hab ha
  exact ⟨hab, ha, fun hsame => hne (hbytes.1 hsame).2, fun hsame => hne ((hid hdigest).1.1 hsame).2⟩

end Pack

end Orchestrator
