import Orchestrator.Flow.Definition
import Orchestrator.Proofs.Json.Decode
import Orchestrator.Proofs.Time.Text
import Orchestrator.Proofs.Uuid
import Orchestrator.Store.Data

/-!
What is written of packs, events, flows, entries of the datastore and actions reads back to them,
and a document that was read and written once stays as it is.

Fields are left out of some documents where they have their default, written as `null` in others
and always written in the rest, so each record is looked at on its own. All that is asked of a
value is that its moments can be written; by `Timestamp.isWritable_iff` these are the moments whose
text reads back.
-/

namespace Orchestrator

open Decode

/-! ## Moments and identifiers -/

theorem Timestamp.lawful : Lawful Timestamp.IsWritable Timestamp.toJson Decode.time where
  read_write t ht := by
    simp only [toJson, Decode.time, parsed, Rfc3339.parseLoose?_text ht]
    rfl
  good_of_read j t ht := by
    cases j with
    | str s =>
        simp only [Decode.time, parsed, mapError_eq_ok] at ht
        split at ht
        · next w hw =>
          obtain rfl := Except.ok.inj ht
          exact Rfc3339.isWritable_of_parseLoose? hw
        · cases ht
    | _ => cases ht

/-- The moments that can be written are those whose text reads back. -/
theorem Timestamp.isWritable_iff {t : Timestamp} :
    t.IsWritable ↔ Decode.time t.toJson = .ok t :=
  ⟨Timestamp.lawful.read_write t, Timestamp.lawful.good_of_read t.toJson t⟩

theorem Uuid.lawful : Lawful Any (fun u : Uuid => .str u.text) Decode.uuid := by
  apply Lawful.of_all
  intro u
  simp only [Decode.uuid, parsed, Uuid.parse?_text]
  rfl

/-! ## Packs and events -/

theorem PackCommand.lawful : Lawful Any PackCommand.toJson PackCommand.read := by
  apply Lawful.of_all
  rintro ⟨name, results⟩
  apply record_object
  refine .and (.and .pure ?name) ?results
  case name => exact lawful_text.find_required trivial (by simp)
  case results => exact lawful_strings.find_withDefault trivial _ (by simp)

theorem PackRef.lawful : Lawful Any PackRef.toJson PackRef.read := by
  apply Lawful.of_all
  rintro ⟨id, name, labels⟩
  apply record_object
  refine .and (.and (.and .pure ?id) ?name) ?labels
  case id | name => exact lawful_text.find_required trivial (by simp)
  case labels => exact lawful_texts.find_withDefault trivial _ (by simp)

/-- The pack was last seen at a moment that can be written. -/
def Pack.IsWritable (p : Pack) : Prop := p.lastSeen.IsWritable

theorem Pack.lawful : Lawful Pack.IsWritable Pack.toJson Pack.read where
  read_write := by
    rintro ⟨id, name, labels, commands, events, lastSeen⟩ hseen
    apply record_object
    refine .and (.and (.and (.and (.and (.and .pure ?id) ?name) ?labels) ?commands) ?events) ?seen
    case id | name => exact lawful_text.find_required trivial (by simp)
    case labels => exact lawful_texts.find_withDefault trivial _ (by simp)
    case commands =>
      exact PackCommand.lawful.list.find_withDefault (fun _ _ => trivial) _ (by simp)
    case events => exact lawful_strings.find_withDefault trivial _ (by simp)
    case seen => exact Timestamp.lawful.find_required hseen (by simp)
  good_of_read j p hp := by
    apply good_of_record hp
    refine .and (.skip (.skip (.skip (.skip (.skip (.pure ?_))))))
      (Timestamp.lawful.onlyRequired _)
    exact fun _ _ _ _ _ _ hseen => hseen

/-- The event happened and was received at moments that can be written. -/
structure Event.IsWritable (e : Event) : Prop where
  created : e.created.IsWritable
  received : e.received.IsWritable

theorem Event.lawful : Lawful Event.IsWritable Event.toJson Event.read where
  read_write := by
    rintro ⟨name, pack, payload, created, received⟩ ⟨hcreated, hreceived⟩
    apply record_object
    refine .and (.and (.and (.and (.and .pure ?name) ?pack) ?payload) ?created) ?received
    case name => exact lawful_text.find_required trivial (by simp)
    case pack => exact PackRef.lawful.find_required trivial (by simp)
    case payload => exact lawful_any.find_withDefault trivial _ (by simp)
    case created => exact Timestamp.lawful.find_required hcreated (by simp)
    case received => exact Timestamp.lawful.find_required hreceived (by simp)
  good_of_read j e he := by
    apply good_of_record he
    refine .and (.and (.skip (.skip (.skip (.pure ?_)))) (Timestamp.lawful.onlyRequired _))
      (Timestamp.lawful.onlyRequired _)
    exact fun _ _ _ _ hcreated _ hreceived => ⟨hcreated, hreceived⟩

/-! ## Flows -/

theorem EventTrigger.lawful : Lawful Any EventTrigger.toJson EventTrigger.read := by
  apply Lawful.of_all
  rintro ⟨packName, name, packLabels⟩
  apply record_object
  refine .and (.and (.and .pure ?packName) ?name) ?packLabels
  case packName | name => exact lawful_text.find_required trivial (by simp)
  case packLabels => exact lawful_texts.find_unless trivial Dict.empty_of_isEmpty (by simp)

theorem CommandSpec.lawful : Lawful Any CommandSpec.toJson CommandSpec.read := by
  apply Lawful.of_all
  rintro ⟨packName, name, packLabels, input⟩
  apply record_object
  refine .and (.and (.and (.and .pure ?packName) ?name) ?packLabels) ?input
  case packName | name => exact lawful_text.find_required trivial (by simp)
  case packLabels => exact lawful_texts.find_unless trivial Dict.empty_of_isEmpty (by simp)
  case input => exact lawful_any.find_withDefault trivial _ (by simp)

theorem Step.lawful : Lawful Any Step.toJson Step.read := by
  apply Lawful.of_all
  rintro ⟨id, dependsOn, event, criteria, context, command⟩
  apply record_object
  refine .and (.and (.and (.and (.and (.and .pure ?id) ?dependsOn) ?event) ?criteria) ?context)
    ?command
  case id => exact lawful_text.find_required trivial (by simp)
  case dependsOn =>
    exact lawful_strings.find_unless trivial (fun h => (List.isEmpty_iff.1 h).symm) (by simp)
  case event => exact EventTrigger.lawful.find_required trivial (by simp)
  case criteria =>
    exact lawful_text.find_unless trivial (fun h => (String.isEmpty_iff.1 h).symm) (by simp)
  case context => exact lawful_texts.find_unless trivial Dict.empty_of_isEmpty (by simp)
  case command => exact CommandSpec.lawful.find_required trivial (by simp)

theorem FlowDefinition.lawful : Lawful Any FlowDefinition.toJson FlowDefinition.read := by
  apply Lawful.of_all
  rintro ⟨name, uuid, description, steps⟩
  apply record_object
  refine .and (.and (.and (.and .pure ?name) ?uuid) ?description) ?steps
  case name => exact lawful_text.find_required trivial (by simp)
  case uuid => exact Uuid.lawful.find_optional nofun (fun _ _ => trivial) (by simp)
  case description => exact lawful_text.find_withDefault trivial _ (by simp)
  case steps => exact Step.lawful.list.find_required (fun _ _ => trivial) (by simp)

/-! ## Entries of the datastore -/

/-- The entry was written at a moment that can be written. -/
def DataEntry.IsWritable (e : DataEntry) : Prop := e.updatedAt.IsWritable

theorem DataEntry.lawful : Lawful DataEntry.IsWritable DataEntry.toJson DataEntry.read where
  read_write := by
    rintro ⟨key, contentType, value, updatedAt⟩ hupdated
    apply record_object
    refine .and (.and (.and (.and .pure ?key) ?contentType) ?value) ?updatedAt
    case key | contentType | value => exact lawful_text.find_required trivial (by simp)
    case updatedAt => exact Timestamp.lawful.find_required hupdated (by simp)
  good_of_read j e he := by
    apply good_of_record he
    refine .and (.skip (.skip (.skip (.pure ?_)))) (Timestamp.lawful.onlyRequired _)
    exact fun _ _ _ _ hupdated => hupdated

/-! ## Actions -/

theorem ActionState.lawful : Lawful Any ActionState.toJson ActionState.read := by
  apply Lawful.of_all
  intro s
  cases s <;> rfl

def StateRecord.IsWritable (r : StateRecord) : Prop := r.time.IsWritable

theorem StateRecord.lawful : Lawful StateRecord.IsWritable StateRecord.toJson StateRecord.read where
  read_write := by
    rintro ⟨value, time⟩ htime
    apply record_object
    refine .and (.and .pure ?value) ?time
    case value => exact ActionState.lawful.find_required trivial (by simp)
    case time => exact Timestamp.lawful.find_required htime (by simp)
  good_of_read j r hr := by
    apply good_of_record hr
    refine .and (.skip (.pure ?_)) (Timestamp.lawful.onlyRequired _)
    exact fun _ _ htime => htime

/-- All moments of the action's course, and those of the events it holds, can be written. -/
structure Action.IsWritable (a : Action) : Prop where
  state : a.state.IsWritable
  history : ∀ r ∈ a.history, r.IsWritable
  trigger : a.trigger.IsWritable
  result : ∀ e ∈ a.result, e.IsWritable

/-- The document of an action does not hold the state that its last move left. -/
theorem Action.lawful : Lawful (fun a => a.IsWritable ∧ a.previous = none) Action.toJson
    Action.read where
  read_write := by
    rintro ⟨id, name, packName, packLabels, input, state, history, correlationId, flowUuid,
      flowName, stepId, context, trigger, result, previous⟩
      ⟨⟨hstate, hhistory, htrigger, hresult⟩, rfl⟩
    apply record_object
    change Fields.Found _ _ (Action.ofDocument id name packName packLabels input state history
      correlationId flowUuid flowName stepId context trigger result)
    refine .and (.and (.and (.and (.and (.and (.and (.and (.and (.and (.and (.and (.and (.and .pure
      ?id) ?name) ?packName) ?packLabels) ?input) ?state) ?history) ?correlationId) ?flowUuid)
      ?flowName) ?stepId) ?context) ?trigger) ?result
    case id | name | packName | correlationId | flowName | stepId =>
      exact lawful_text.find_required trivial (by simp)
    case packLabels | context => exact lawful_texts.find_withDefault trivial _ (by simp)
    case input => exact lawful_any.find_withDefault trivial _ (by simp)
    case state => exact StateRecord.lawful.find_required hstate (by simp)
    case history => exact StateRecord.lawful.list.find_required hhistory (by simp)
    case flowUuid =>
      have hread := (Uuid.lawful.optional nofun).read_write flowUuid fun _ _ => trivial
      exact find_of_some rfl (by simp) hread
    case trigger => exact Event.lawful.find_required htrigger (by simp)
    case result => exact Event.lawful.find_optional nofun hresult (by simp)
  good_of_read j a ha := by
    apply good_of_record ha
    refine .and (.and (.skip <| .skip <| .skip <| .skip <| .skip <| .and (.and (.skip <| .skip <|
      .skip <| .skip <| .skip <| .pure ?_) (StateRecord.lawful.onlyRequired _))
      (StateRecord.lawful.list.onlyRequired _)) (Event.lawful.onlyRequired _))
      ((Event.lawful.optional nofun).onlyWithDefault _ nofun)
    exact fun _ _ _ _ _ _ hstate _ hhistory _ _ _ _ _ _ htrigger _ hresult =>
      ⟨⟨hstate, hhistory, htrigger, hresult⟩, rfl⟩

/-! ## All documents -/

/-- Documents hold what they are written from, as far as `kept` says: it reads back from them. And
writing what was read of any document gives one that reading and writing leave as it is. -/
structure Faithful {α : Type} (writable : α → Prop) (kept : α → α) (toJson : α → Json)
    (read : Decoder α) : Prop where
  read_toJson : ∀ x, writable x → read (toJson x) = .ok (kept x)
  settled : ∀ j k, (read j).map toJson = .ok k → (read k).map toJson = .ok k

theorem settled_of_lawful {α : Type} {good : α → Prop} {toJson : α → Json} {read : Decoder α}
    (h : Lawful good toJson read) {j k : Json} (hk : (read j).map toJson = .ok k) :
    (read k).map toJson = .ok k := by
  obtain ⟨x, hx, rfl⟩ := map_eq_ok.1 hk
  rw [h.read_write x (h.good_of_read j x hx)]
  rfl

theorem faithful_of_lawful {α : Type} {good : α → Prop} {toJson : α → Json} {read : Decoder α}
    (h : Lawful good toJson read) : Faithful good id toJson read :=
  ⟨h.read_write, fun _ _ => settled_of_lawful h⟩

theorem documents_faithful :
    Faithful Pack.IsWritable id Pack.toJson Pack.read ∧
    Faithful Event.IsWritable id Event.toJson Event.read ∧
    Faithful Any id Step.toJson Step.read ∧
    Faithful Any id FlowDefinition.toJson FlowDefinition.read ∧
    Faithful DataEntry.IsWritable id DataEntry.toJson DataEntry.read ∧
    Faithful Action.IsWritable (fun a => { a with previous := none }) Action.toJson
      Action.read := by
  refine ⟨faithful_of_lawful Pack.lawful, faithful_of_lawful Event.lawful,
    faithful_of_lawful Step.lawful, faithful_of_lawful FlowDefinition.lawful,
    faithful_of_lawful DataEntry.lawful, ⟨?_, fun _ _ => settled_of_lawful Action.lawful⟩⟩
  intro a ha
  exact Action.lawful.read_write { a with previous := none }
    ⟨⟨ha.state, ha.history, ha.trigger, ha.result⟩, rfl⟩

/-- An order for toast that was taken in the last second of 2016, which was a leap second. -/
def toast : Action where
  id := "1"
  name := "toast"
  packName := "kitchen"
  packLabels := ∅
  input := .null
  state := ⟨.pending, ⟨1483228799, 1500000000⟩⟩
  history := [⟨.new, ⟨1483228799, 0⟩⟩, ⟨.pending, ⟨1483228799, 1500000000⟩⟩]
  correlationId := ""
  flowUuid := none
  flowName := ""
  stepId := ""
  context := ∅
  trigger := ⟨"breakfast", ⟨"7", "waiter", ∅⟩, .arr [.null, .obj []], ⟨-1, 0⟩, ⟨1483228799, 0⟩⟩
  result := none
  previous := some .new

/-- A waiter's document as an array, with a time in a loose spelling. -/
def waiterLoosely : Json :=
  .arr [.str "7", .str "waiter", .obj [], .arr [], .arr [], .str "2016-12-31 23:59:60.5 utc"]

def waiterDocument : Json :=
  .obj [("commands", .arr []), ("events", .arr []), ("id", .str "7"), ("labels", .obj []),
    ("lastSeen", .str "2016-12-31T23:59:60.500Z"), ("name", .str "waiter")]

theorem toast_reread :
    (toast.IsWritable ∧ Action.read toast.toJson = .ok { toast with previous := none }) ∧
    (Pack.read waiterLoosely).map Pack.toJson = .ok waiterDocument ∧
    (Pack.read waiterDocument).map Pack.toJson = .ok waiterDocument := by
  have hearly : (⟨-1, 0⟩ : Timestamp).IsWritable := by decide
  have hlast : (⟨1483228799, 0⟩ : Timestamp).IsWritable := by decide
  have hleap : (⟨1483228799, 1500000000⟩ : Timestamp).IsWritable := by decide
  have hhistory : ∀ r ∈ toast.history, r.IsWritable :=
    List.forall_mem_cons.2 ⟨hlast, List.forall_mem_singleton.2 hleap⟩
  have htoast : toast.IsWritable := ⟨hleap, hhistory, ⟨hearly, hlast⟩, nofun⟩
  have hwaiter : (Pack.read waiterLoosely).map Pack.toJson = .ok waiterDocument := by
    decide +kernel
  obtain ⟨hpack, -, -, -, -, haction⟩ := documents_faithful
  exact ⟨⟨htoast, haction.read_toJson toast htoast⟩, hwaiter, hpack.settled _ _ hwaiter⟩

end Orchestrator
