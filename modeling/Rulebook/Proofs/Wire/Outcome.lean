import Rulebook.Proofs.Json.Document
import Rulebook.Wire.Outcome

/-!
# Outcomes that are sent

The text of an outcome is read as the same outcome.  What a reject leaves out, an empty list of
arguments or a message that it does not have, is what is taken for granted where it is missing;
a message without a character is written and is read as such.
-/

namespace Rulebook

namespace Wire

/-- An object whose names are some of those of a structure, in the same order, has all its
members read. -/
theorem fields?_of_sublist {names : List String} {members : List (String × Json)}
    (distinct : names.Nodup) (known : (Table.names members).Sublist names) :
    fields? names (.object members) = some members := by
  have kept : (members.filter fun member => names.contains member.1) = members := by
    rw [List.filter_eq_self]
    intro member isMember
    exact List.contains_iff_mem.mpr (known.subset (List.mem_map_of_mem isMember))
  have nodup : (members.map Prod.fst).Nodup := distinct.sublist known
  rw [fields?, kept, if_pos nodup]

/-- Items that are read one by one are read as a list. -/
theorem list?_array_map {α : Type} {read? : Json → Option α} (write : α → Json)
    (reads : ∀ a, read? (write a) = some a) (as : List α) :
    list? read? (.array (as.map write)) = some as := by
  rw [list?]
  induction as with
  | nil => rfl
  | cons a as ih =>
      rw [List.map_cons, List.mapM_cons, reads, ih]
      rfl

end Wire

namespace Json

theorem writableItems_map {α : Type} (write : α → Json) (writable : ∀ a, (write a).Writable)
    (as : List α) : WritableItems (as.map write) := by
  induction as with
  | nil => trivial
  | cons a as ih => exact ⟨writable a, ih⟩

end Json

namespace Reject

theorem writable_toJson (reject : Reject) : reject.toJson.Writable := by
  obtain ⟨path, field, rule, args, message⟩ := reject
  have texts : Json.WritableItems (args.map Json.string) :=
    Json.writableItems_map .string (fun _ => trivial) args
  cases args with
  | nil =>
      cases message with
      | none => exact ⟨trivial, trivial, trivial, trivial⟩
      | some message => exact ⟨trivial, trivial, trivial, trivial, trivial⟩
  | cons arg args =>
      cases message with
      | none => exact ⟨trivial, trivial, trivial, texts, trivial⟩
      | some message => exact ⟨trivial, trivial, trivial, texts, trivial, trivial⟩

/-- What a reject leaves out is what its reader takes for granted. -/
theorem ofJson?_toJson (reject : Reject) : ofJson? reject.toJson = some reject := by
  obtain ⟨path, field, rule, args, message⟩ := reject
  have distinct : ["path", "field", "rule", "args", "message"].Nodup := by decide
  have knownArgs : (Table.names (if args.isEmpty then [] else
      [("args", Json.array (args.map .string))])).Sublist ["args"] := by
    cases args with
    | nil => exact List.nil_sublist _
    | cons arg args => exact List.Sublist.refl _
  have knownMessage : (Table.names (message.elim [] fun message =>
      [("message", Json.string message)])).Sublist ["message"] := by
    cases message with
    | none => exact List.nil_sublist _
    | some message => exact List.Sublist.refl _
  have texts : Wire.list? Wire.text? (.array (args.map Json.string)) = some args :=
    Wire.list?_array_map .string (fun _ => rfl) args
  rw [ofJson?, toJson, Wire.fields?_of_sublist distinct]
  · cases args with
    | nil => cases message <;> rfl
    | cons arg args =>
        rw [List.map_cons] at texts
        cases message <;>
          simp [Wire.defaulted?, Wire.required?, Wire.text?, Wire.option?, Table.find?_cons, texts]
  · rw [Table.names, List.map_append, List.map_append]
    exact ((List.Sublist.refl _).append knownArgs).append knownMessage

end Reject

theorem Status.ofName?_name (status : Status) : ofName? status.name = some status := by
  cases status <;> rfl

namespace Outcome

variable (outcome : Outcome)

theorem writable_toJson : outcome.toJson.Writable :=
  ⟨trivial, Json.writableItems_map Reject.toJson Reject.writable_toJson outcome.rejects, trivial⟩

theorem ofJson?_toJson : ofJson? outcome.toJson = some outcome := by
  have distinct : ["status", "rejects"].Nodup := by decide
  have status : Status.ofJson? (.string outcome.status.name) = some outcome.status :=
    outcome.status.ofName?_name
  have rejects : Wire.list? Reject.ofJson? (.array (outcome.rejects.map Reject.toJson)) =
      some outcome.rejects :=
    Wire.list?_array_map Reject.toJson Reject.ofJson?_toJson outcome.rejects
  rw [ofJson?, toJson, Wire.fields?_of_sublist distinct]
  · simp [Wire.required?, Table.find?_cons, status, rejects]
  · exact .refl _

theorem ofText?_render : ofText? outcome.render = some outcome := by
  rw [ofText?, render, outcome.writable_toJson.parse?_render, Option.bind_some, ofJson?_toJson]

/-- A list of rejects survives being sent: whoever reads the text of its outcome finds the same
verdict, and the same rejects in the same order, each with its place, its rule and its
arguments, and with a message just if it had one. -/
theorem ofText?_render_ofRejects (rejects : List Reject) :
    ofText? (ofRejects rejects).render = some (ofRejects rejects) :=
  ofText?_render (ofRejects rejects)

/-- Arguments and a message that are there but empty. -/
example :
    let reject : Reject := ⟨"home", "city", "in", [""], some ""⟩
    (ofRejects [reject, { reject with args := [], message := none }]).render =
      "\x7b\"status\":\"failed\",\"rejects\":[" ++
        "\x7b\"path\":\"home\",\"field\":\"city\",\"rule\":\"in\"," ++
        "\"args\":[\"\"],\"message\":\"\"\x7d," ++
        "\x7b\"path\":\"home\",\"field\":\"city\",\"rule\":\"in\"\x7d]\x7d" := by
  decide +kernel

end Outcome

end Rulebook
