import Mathlib.Data.List.Forall2
import Orchestrator.Proofs.Dict
import Orchestrator.Proofs.Except
import Orchestrator.Resolve

/-!
What becomes of a document, or of a map of texts, when the templates in it are resolved. If every
template can be rendered, each is replaced by what it comes to and nothing else changes. If not, there
is no result at all, and the failure is that of the first template, in the order of the document, that
cannot be rendered.
-/

namespace Orchestrator

mutual

/-- The texts in a document. -/
def Json.texts : Json → List String
  | .str s => [s]
  | .arr items => Json.textsOfItems items
  | .obj entries => Json.textsOfEntries entries
  | .null | .bool _ | .num _ => []

def Json.textsOfItems : List Json → List String
  | [] => []
  | item :: rest => item.texts ++ Json.textsOfItems rest

def Json.textsOfEntries : List (String × Json) → List String
  | [] => []
  | (_, item) :: rest => item.texts ++ Json.textsOfEntries rest

end

namespace Renderer

variable {r : Renderer} {document : Json}

/-! ## Templates that fail -/

/-- A template comes to some text. -/
def Renders (r : Renderer) (document : Json) (source : String) : Prop :=
  ∃ text, r source document = .ok text

/-- Of some templates, the first that cannot be rendered fails with a cause. -/
def FailsFirst (r : Renderer) (document : Json) (sources : List String) (cause : ResolveError) :
    Prop :=
  ∃ before source after, sources = before ++ source :: after ∧
    (∀ earlier ∈ before, r.Renders document earlier) ∧ r source document = .error cause

theorem not_failsFirst_nil (cause : ResolveError) : ¬ r.FailsFirst document [] cause := by
  rintro ⟨before, source, after, hsources, -⟩
  simp at hsources

theorem failsFirst_cons {source : String} {rest : List String} {cause : ResolveError} :
    r.FailsFirst document (source :: rest) cause ↔
      r source document = .error cause ∨
        r.Renders document source ∧ r.FailsFirst document rest cause := by
  constructor
  · rintro ⟨before, failing, after, hsources, hbefore, hfails⟩
    cases before with
    | nil =>
        obtain ⟨rfl, rfl⟩ := List.cons.inj hsources
        exact .inl hfails
    | cons first before =>
        obtain ⟨rfl, rfl⟩ := List.cons.inj hsources
        obtain ⟨hfirst, hothers⟩ := List.forall_mem_cons.1 hbefore
        exact .inr ⟨hfirst, before, failing, after, rfl, hothers, hfails⟩
  · rintro (hfails | ⟨hfirst, before, failing, after, rfl, hbefore, hfails⟩)
    · exact ⟨[], source, rest, rfl, by simp, hfails⟩
    · exact ⟨source :: before, failing, after, rfl, List.forall_mem_cons.2 ⟨hfirst, hbefore⟩,
        hfails⟩

theorem failsFirst_append {sources more : List String} {cause : ResolveError} :
    r.FailsFirst document (sources ++ more) cause ↔
      r.FailsFirst document sources cause ∨
        (∀ source ∈ sources, r.Renders document source) ∧ r.FailsFirst document more cause := by
  induction sources with
  | nil => simp [not_failsFirst_nil]
  | cons source rest ih =>
      rw [List.cons_append, failsFirst_cons, failsFirst_cons, ih, List.forall_mem_cons, and_or_left,
        or_assoc, and_assoc]

theorem exists_failsFirst {sources : List String} :
    (∃ cause, r.FailsFirst document sources cause) ↔
      ∃ source ∈ sources, ¬ r.Renders document source := by
  induction sources with
  | nil => simp [not_failsFirst_nil]
  | cons source rest ih =>
      have hfails : (∃ cause, r source document = .error cause) ↔ ¬ r.Renders document source := by
        rw [Renders, exists_ok_iff, not_not]
      simp only [failsFirst_cons, exists_or, exists_and_left, ih, hfails, List.mem_cons,
        exists_eq_or_imp]
      tauto

/-- A computation renders some templates one after the other: it fails exactly if one of them cannot
be rendered, and then for the reason why the first such one cannot. -/
def InTurn {α : Type} (r : Renderer) (document : Json) (sources : List String)
    (result : Except ResolveError α) : Prop :=
  ∀ cause, result = .error cause ↔ r.FailsFirst document sources cause

section InTurn

variable {α β : Type} {sources more : List String} {result : Except ResolveError α}

theorem inTurn_ok (a : α) : r.InTurn document [] (.ok a) := by
  intro cause
  simp [not_failsFirst_nil]

theorem inTurn_render (source : String) : r.InTurn document [source] (r source document) := by
  intro cause
  simp [failsFirst_cons, not_failsFirst_nil]

theorem InTurn.map (h : r.InTurn document sources result) (f : α → β) :
    r.InTurn document sources (result.map f) := by
  intro cause
  rw [map_eq_error]
  exact h cause

/-- All templates can be rendered exactly if there is a result. -/
theorem InTurn.exists_ok (h : r.InTurn document sources result) :
    (∃ a, result = .ok a) ↔ ∀ source ∈ sources, r.Renders document source := by
  rw [exists_ok_iff, exists_congr h, exists_failsFirst]
  simp

theorem InTurn.bind (h : r.InTurn document sources result) {f : α → Except ResolveError β}
    (hf : ∀ a, r.InTurn document more (f a)) :
    r.InTurn document (sources ++ more) (result >>= f) := by
  intro cause
  rw [bind_eq_error, failsFirst_append, h cause, ← h.exists_ok]
  simp only [hf _ cause, exists_and_right]

theorem InTurn.bind_pure (h : r.InTurn document sources result) (f : α → β) :
    r.InTurn document sources (result >>= fun a => pure (f a)) := by
  have hpure (a : α) : r.InTurn document [] (pure (f a)) := inTurn_ok (f a)
  simpa using h.bind hpure

end InTurn

/-! ## Documents -/

/-- A document with every text in it rendered: the arrays are as long, the objects have the same keys
in the same order, and all that is no text is the same. -/
inductive Resolved (r : Renderer) (document : Json) : Json → Json → Prop
  | null : Resolved r document .null .null
  | bool (b : Bool) : Resolved r document (.bool b) (.bool b)
  | num (n : Number) : Resolved r document (.num n) (.num n)
  | str {source text : String} (h : r source document = .ok text) :
      Resolved r document (.str source) (.str text)
  | arr {items items' : List Json} (h : List.Forall₂ (Resolved r document) items items') :
      Resolved r document (.arr items) (.arr items')
  | obj {entries entries' : List (String × Json)}
      (hkeys : entries.map Prod.fst = entries'.map Prod.fst)
      (h : List.Forall₂ (Resolved r document) (entries.map Prod.snd) (entries'.map Prod.snd)) :
      Resolved r document (.obj entries) (.obj entries')

theorem resolved_str {source : String} {out : Json} :
    r.Resolved document (.str source) out ↔
      ∃ text, r source document = .ok text ∧ .str text = out := by
  constructor
  · rintro (_ | _ | _ | h)
    exact ⟨_, h, rfl⟩
  · rintro ⟨text, h, rfl⟩
    exact .str h

theorem resolved_arr {items : List Json} {out : Json} :
    r.Resolved document (.arr items) out ↔
      ∃ items', List.Forall₂ (r.Resolved document) items items' ∧ .arr items' = out := by
  constructor
  · rintro (_ | _ | _ | _ | h)
    exact ⟨_, h, rfl⟩
  · rintro ⟨items', h, rfl⟩
    exact .arr h

theorem resolved_obj {entries : List (String × Json)} {out : Json} :
    r.Resolved document (.obj entries) out ↔
      ∃ entries', (entries.map Prod.fst = entries'.map Prod.fst ∧
        List.Forall₂ (r.Resolved document) (entries.map Prod.snd) (entries'.map Prod.snd)) ∧
          .obj entries' = out := by
  constructor
  · rintro (_ | _ | _ | _ | _ | ⟨hkeys, h⟩)
    exact ⟨_, ⟨hkeys, h⟩, rfl⟩
  · rintro ⟨entries', ⟨hkeys, h⟩, rfl⟩
    exact .obj hkeys h

mutual

theorem resolve_eq_ok : ∀ (tree : Json) {out : Json},
    r.resolve document tree = .ok out ↔ r.Resolved document tree out
  | .null, _ | .bool _, _ | .num _, _ => by
      simp only [resolve, Except.ok.injEq]
      constructor
      · rintro rfl
        constructor
      · rintro (_ | _ | _)
        rfl
  | .str source, out => by rw [resolve, map_eq_ok, resolved_str]
  | .arr items, out => by
      rw [resolve, map_eq_ok, resolved_arr]
      simp only [resolveItems_eq_ok items]
  | .obj entries, out => by
      rw [resolve, map_eq_ok, resolved_obj]
      simp only [resolveEntries_eq_ok entries]

theorem resolveItems_eq_ok : ∀ (items : List Json) {out : List Json},
    r.resolveItems document items = .ok out ↔ List.Forall₂ (r.Resolved document) items out
  | [], out => by cases out <;> simp [resolveItems]
  | item :: rest, out => by
      simp only [resolveItems, bind_eq_ok, pure_eq_ok, resolve_eq_ok item, resolveItems_eq_ok rest,
        List.forall₂_cons_left_iff]
      tauto

theorem resolveEntries_eq_ok : ∀ (entries : List (String × Json)) {out : List (String × Json)},
    r.resolveEntries document entries = .ok out ↔
      entries.map Prod.fst = out.map Prod.fst ∧
        List.Forall₂ (r.Resolved document) (entries.map Prod.snd) (out.map Prod.snd)
  | [], out => by cases out <;> simp [resolveEntries]
  | (key, item) :: rest, out => by
      simp only [resolveEntries, bind_eq_ok, pure_eq_ok, resolve_eq_ok item,
        resolveEntries_eq_ok rest]
      cases out with
      | nil => simp
      | cons entry out =>
        obtain ⟨key', item'⟩ := entry
        simp
        tauto

end

mutual

theorem inTurn_resolve : ∀ tree : Json, r.InTurn document tree.texts (r.resolve document tree)
  | .null | .bool _ | .num _ => by
      simp only [resolve, Json.texts]
      exact inTurn_ok _
  | .str source => by
      simp only [resolve, Json.texts]
      exact (inTurn_render source).map _
  | .arr items => by
      simp only [resolve, Json.texts]
      exact (inTurn_resolveItems items).map _
  | .obj entries => by
      simp only [resolve, Json.texts]
      exact (inTurn_resolveEntries entries).map _

theorem inTurn_resolveItems : ∀ items : List Json,
    r.InTurn document (Json.textsOfItems items) (r.resolveItems document items)
  | [] => inTurn_ok _
  | item :: rest => by
      simp only [resolveItems, Json.textsOfItems]
      exact (inTurn_resolve item).bind fun item' => (inTurn_resolveItems rest).bind_pure _

theorem inTurn_resolveEntries : ∀ entries : List (String × Json),
    r.InTurn document (Json.textsOfEntries entries) (r.resolveEntries document entries)
  | [] => inTurn_ok _
  | (key, item) :: rest => by
      simp only [resolveEntries, Json.textsOfEntries]
      exact (inTurn_resolve item).bind fun item' => (inTurn_resolveEntries rest).bind_pure _

end

/-! A document whose texts come to themselves stays as it is. -/

mutual

theorem resolved_self : ∀ tree : Json, (∀ source ∈ tree.texts, r source document = .ok source) →
    r.Resolved document tree tree
  | .null, _ => .null
  | .bool b, _ => .bool b
  | .num n, _ => .num n
  | .str source, h => .str (h source (by simp [Json.texts]))
  | .arr items, h => .arr (resolvedItems_self items h)
  | .obj entries, h => .obj rfl (resolvedEntries_self entries h)

theorem resolvedItems_self : ∀ items : List Json,
    (∀ source ∈ Json.textsOfItems items, r source document = .ok source) →
      List.Forall₂ (r.Resolved document) items items
  | [], _ => .nil
  | item :: rest, h => by
      rw [Json.textsOfItems, List.forall_mem_append] at h
      exact .cons (resolved_self item h.1) (resolvedItems_self rest h.2)

theorem resolvedEntries_self : ∀ entries : List (String × Json),
    (∀ source ∈ Json.textsOfEntries entries, r source document = .ok source) →
      List.Forall₂ (r.Resolved document) (entries.map Prod.snd) (entries.map Prod.snd)
  | [], _ => .nil
  | (_, item) :: rest, h => by
      rw [Json.textsOfEntries, List.forall_mem_append] at h
      exact .cons (resolved_self item h.1) (resolvedEntries_self rest h.2)

end

/-! ## Maps of texts -/

theorem inTurn_resolveTexts (entries : List (String × String)) :
    r.InTurn document (entries.map Prod.snd) (r.resolveTexts document entries) := by
  induction entries with
  | nil => exact inTurn_ok _
  | cons head rest ih =>
      obtain ⟨key, source⟩ := head
      simp only [resolveTexts]
      exact (inTurn_render source).bind fun value => ih.bind_pure _

theorem inTurn_resolveMap (templates : Dict String) :
    r.InTurn document templates.values (r.resolveMap document templates) :=
  (inTurn_resolveTexts templates.toList).map _

theorem resolveTexts_eq_ok {entries out : List (String × String)} :
    r.resolveTexts document entries = .ok out ↔
      List.Forall₂ (fun entry filled => filled.1 = entry.1 ∧ r entry.2 document = .ok filled.2)
        entries out := by
  induction entries generalizing out with
  | nil => cases out <;> simp [resolveTexts]
  | cons head rest ih =>
      obtain ⟨key, source⟩ := head
      simp only [resolveTexts, bind_eq_ok, pure_eq_ok, ih, List.forall₂_cons_left_iff]
      constructor
      · rintro ⟨text, htext, later, hlater, rfl⟩
        exact ⟨(key, text), later, ⟨rfl, htext⟩, hlater, rfl⟩
      · rintro ⟨⟨_, text⟩, later, ⟨rfl, htext⟩, hlater, rfl⟩
        exact ⟨text, htext, later, hlater, rfl⟩

theorem keys_resolveTexts {entries out : List (String × String)}
    (h : r.resolveTexts document entries = .ok out) :
    out.map Prod.fst = entries.map Prod.fst := by
  rw [resolveTexts_eq_ok] at h
  induction h with
  | nil => rfl
  | cons hhead _ ih => rw [List.map_cons, List.map_cons, hhead.1, ih]

/-- Under a key is what the template under it comes to. -/
theorem find?_resolveTexts {entries out : List (String × String)}
    (h : r.resolveTexts document entries = .ok out) (key : String) :
    Option.Rel (fun source text => r source document = .ok text) (Entries.find? key entries)
      (Entries.find? key out) := by
  rw [resolveTexts_eq_ok] at h
  induction h with
  | nil => exact .none
  | @cons entry filled _ _ hhead _ ih =>
      rw [Entries.find?, Entries.find?, hhead.1]
      split
      · exact .some hhead.2
      · exact ih

/-- A map of templates filled in: under the same keys it has what the templates come to. -/
def Fills (r : Renderer) (document : Json) (templates out : Dict String) : Prop :=
  ∀ key, Option.Rel (fun source text => r source document = .ok text) (templates.get? key)
    (out.get? key)

theorem Fills.get?_of_some {templates out : Dict String} (h : r.Fills document templates out)
    {key source : String} (hsource : templates.get? key = some source) :
    ∃ text, r source document = .ok text ∧ out.get? key = some text := by
  have hkey := h key
  rw [hsource] at hkey
  cases hget : out.get? key with
  | none =>
      rw [hget] at hkey
      cases hkey
  | some text =>
      rw [hget, Option.rel_some_some] at hkey
      exact ⟨text, hkey, rfl⟩

theorem Fills.get?_of_none {templates out : Dict String} (h : r.Fills document templates out)
    {key : String} (hnone : templates.get? key = none) : out.get? key = none := by
  have hkey := h key
  rw [hnone] at hkey
  cases hget : out.get? key with
  | none => rfl
  | some text =>
      rw [hget] at hkey
      cases hkey

theorem fills_of_resolveMap {templates out : Dict String}
    (h : r.resolveMap document templates = .ok out) : r.Fills document templates out := by
  obtain ⟨filled, hfilled, rfl⟩ := map_eq_ok.1 h
  have hsorted : Entries.Sorted filled := by
    rw [Entries.Sorted, ← List.pairwise_map, keys_resolveTexts hfilled, List.pairwise_map]
    exact templates.sorted
  intro key
  rw [Dict.get?_ofList hsorted]
  exact find?_resolveTexts hfilled key

theorem Fills.unique {templates out out' : Dict String} (h : r.Fills document templates out)
    (h' : r.Fills document templates out') : out = out' := by
  apply Dict.ext_get?
  intro key
  cases hsource : templates.get? key with
  | none => rw [h.get?_of_none hsource, h'.get?_of_none hsource]
  | some source =>
      obtain ⟨text, htext, hget⟩ := h.get?_of_some hsource
      obtain ⟨text', htext', hget'⟩ := h'.get?_of_some hsource
      rw [hget, hget', Except.ok.inj (htext.symm.trans htext')]

theorem resolveMap_eq_ok {templates out : Dict String} :
    r.resolveMap document templates = .ok out ↔ r.Fills document templates out := by
  refine ⟨fills_of_resolveMap, fun h => ?_⟩
  have hrender : ∀ source ∈ templates.values, r.Renders document source := by
    intro source hsource
    obtain ⟨key, hkey⟩ := Dict.mem_values.1 hsource
    obtain ⟨text, htext, -⟩ := h.get?_of_some hkey
    exact ⟨text, htext⟩
  obtain ⟨out', hresolve⟩ := (inTurn_resolveMap templates).exists_ok.2 hrender
  rw [hresolve, (fills_of_resolveMap hresolve).unique h]

end Renderer

/-! ## Texts without tags -/

theorem hasTag_iff {cs : List Char} :
    hasTag cs = true ↔ ∃ b ∈ ['\x7b', '%', '#'], ['\x7b', b] <:+: cs := by
  fun_induction hasTag cs with
  | case1 a b rest ih =>
      have hopens : opensTag a b = true ↔
          ∃ c ∈ ['\x7b', '%', '#'], ['\x7b', c] <+: a :: b :: rest := by
        by_cases ha : a = '\x7b'
        · simp [opensTag, ha, List.cons_prefix_cons, @eq_comm _ b, or_assoc]
        · simp [opensTag, ha, List.cons_prefix_cons, Ne.symm ha]
      rw [Bool.or_eq_true, ih, hopens, ← exists_or]
      simp only [← and_or_left, List.infix_cons_iff (a := a)]
  | case2 cs hshort =>
      rcases cs with _ | ⟨a, _ | ⟨b, rest⟩⟩
      · simp
      · simp [List.infix_cons_iff]
      · exact (hshort a b rest rfl).elim

theorem hasMarkup_iff {source : String} :
    hasMarkup source = true ↔
      ∃ tag ∈ ["\x7b\x7b", "\x7b%", "\x7b#"], tag.toList <:+: source.toList := by
  simp [hasMarkup, hasTag_iff]

theorem templateRenderer_of_untagged {data : DataStore} {seed : Nat} {source : String}
    (h : ∀ tag ∈ ["\x7b\x7b", "\x7b%", "\x7b#"], ¬ tag.toList <:+: source.toList)
    (document : Json) : templateRenderer data seed source document = .ok source := by
  have hplain : ¬ hasMarkup source = true := by
    rw [hasMarkup_iff]
    rintro ⟨tag, htag, hinfix⟩
    exact h tag htag hinfix
  exact if_neg hplain

/-- A document is resolved exactly if every text in it can be rendered. Then every text is replaced by
what it comes to, and nothing else changes; otherwise the first text that cannot be rendered says why.
A document without tags of templates in its texts, whatever its keys are like, stays as it is. -/
theorem Renderer.resolve_all_or_nothing (r : Renderer) (document tree : Json) :
    ((∃ out, r.resolve document tree = .ok out) ↔
      ∀ source ∈ tree.texts, r.Renders document source) ∧
    (∀ out, r.resolve document tree = .ok out ↔ r.Resolved document tree out) ∧
    (∀ cause, r.resolve document tree = .error cause ↔
      r.FailsFirst document tree.texts cause) ∧
    ∀ data seed,
      (∀ source ∈ tree.texts, ∀ tag ∈ ["\x7b\x7b", "\x7b%", "\x7b#"],
        ¬ tag.toList <:+: source.toList) →
      (templateRenderer data seed).resolve document tree = .ok tree := by
  refine ⟨(inTurn_resolve tree).exists_ok, fun out => resolve_eq_ok tree, inTurn_resolve tree,
    fun data seed huntagged => ?_⟩
  apply (resolve_eq_ok tree).2
  apply resolved_self
  intro source hsource
  exact templateRenderer_of_untagged (huntagged source hsource) document

/-- A document whose key looks like a template, and whose texts have braces but no tags. -/
def bill : Json :=
  .obj [("\x7b\x7b table \x7d\x7d",
    .arr [.str "\x7bsoup\x7d", .num (.int 2), .arr [.str "\x7b %5 #1", .null]])]

theorem bill_unchanged :
    (∀ source ∈ bill.texts, ∀ tag ∈ ["\x7b\x7b", "\x7b%", "\x7b#"],
      ¬ tag.toList <:+: source.toList) ∧
    (templateRenderer ∅ 0).resolve .null bill = .ok bill := by
  have huntagged : ∀ source ∈ bill.texts, ∀ tag ∈ ["\x7b\x7b", "\x7b%", "\x7b#"],
      ¬ tag.toList <:+: source.toList := by
    decide +kernel
  exact ⟨huntagged,
    (Renderer.resolve_all_or_nothing (templateRenderer ∅ 0) .null bill).2.2.2 ∅ 0 huntagged⟩

end Orchestrator
