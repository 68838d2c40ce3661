import VideoPreview.Proofs.Overlay

/-! Members that no record knows. In a document of options a section that does not exist is refused,
whatever else is in the document. Within a section a member that is no option is skipped, and what
becomes of the document is what would become of it without this member. -/
namespace VideoPreview.Json.Record

variable {α : Type} {r : Record α} {inner : String → Tree → Tree}

def heeds (r : Record α) (m : Spelling × Tree) : Bool :=
  match m.1.toString? with
  | some name => r.strict || (r.find? name).isSome
  | none => true

def changeMember (inner : String → Tree → Tree) (m : Spelling × Tree) : Spelling × Tree :=
  match m.1.toString? with
  | some name => (m.1, inner name m.2)
  | none => m

def changeItems (inner : String → Tree → Tree) : List (Field α) → List Tree → List Tree
  | f :: fields, t :: items => inner f.name t :: changeItems inner fields items
  | _, items => items

def trimmed (r : Record α) (inner : String → Tree → Tree) : Tree → Tree
  | .object members ending => .object ((members.filter r.heeds).map (changeMember inner)) ending
  | .array items ending => .array (changeItems inner r.fields items) ending
  | t => t

theorem fieldsTrimmed (fields : List (String × Tree)) :
    r.trimmed inner (.ofFields fields) =
      .ofFields ((fields.filter fun f => r.strict || (r.find? f.1).isSome).map fun f =>
        (f.1, inner f.1 f.2)) := by
  simp [trimmed, Tree.ofFields, List.filter_map, heeds, changeMember, Spelling.printedString,
    Function.comp_def]

def Overlooks (r : Record α) (inner : String → Tree → Tree) : Prop :=
  ∀ f ∈ r.fields, ∀ t a, f.store (inner f.name t) a = f.store t a

theorem overlooksNothing (r : Record α) : r.Overlooks fun _ t => t := fun _ _ _ _ => rfl

theorem membersTrimmed (overlooks : r.Overlooks inner) (members : List (Spelling × Tree))
    (seen : List String) (a : α) :
    r.readMembers ((members.filter r.heeds).map (changeMember inner)) seen a =
      r.readMembers members seen a := by
  induction members generalizing seen a with
  | nil => rfl
  | cons m members ih =>
    obtain ⟨key, t⟩ := m
    cases text : key.toString? with
    | none => simp [heeds, changeMember, readMembers, text]
    | some name =>
      cases found : r.find? name with
      | none =>
        cases strict : r.strict <;> simp [heeds, changeMember, readMembers, text, found, strict, ih]
      | some f =>
        have named := List.find?_some found
        have same : f.name = name := eq_of_beq named
        have store := overlooks f (List.mem_of_find?_eq_some found) t a
        rw [same] at store
        simp [heeds, changeMember, readMembers, text, found, store, ih]

theorem itemsTrimmed {fields : List (Field α)}
    (overlooks : ∀ f ∈ fields, ∀ t a, f.store (inner f.name t) a = f.store t a) (ending : Ending)
    (items : List Tree) (a : α) :
    r.readItems ending fields (changeItems inner fields items) a =
      r.readItems ending fields items a := by
  induction fields generalizing items a with
  | nil => cases items <;> rfl
  | cons f fields ih =>
    cases items with
    | nil => rfl
    | cons t items =>
      have later := ih (fun g member => overlooks g (List.mem_cons_of_mem f member)) items
      simp only [changeItems, readItems, overlooks f List.mem_cons_self, later]

theorem readTrimmed (overlooks : r.Overlooks inner) (t : Tree) :
    r.read (r.trimmed inner t) = r.read t := by
  cases t with
  | object members ending => simp only [trimmed, read, membersTrimmed overlooks]
  | array items ending => exact itemsTrimmed overlooks ending items r.start
  | _ => rfl

theorem strictRefuses (strict : r.strict = true) {members : List (Spelling × Tree)}
    {m : Spelling × Tree} (among : m ∈ members)
    (unknown : ∀ name, m.1.toString? = some name → r.find? name = none) (seen : List String)
    (a : α) : ∃ e, r.readMembers members seen a = .error e := by
  induction members generalizing seen a with
  | nil => cases among
  | cons first members ih =>
    obtain ⟨key, t⟩ := first
    rw [readMembers]
    split
    case h_1 => exact ⟨_, rfl⟩
    case h_2 name text =>
      split
      case h_1 =>
        rw [if_pos strict]
        exact ⟨_, rfl⟩
      case h_2 f found =>
        have later : m ∈ members := by
          rcases List.mem_cons.mp among with rfl | later
          · cases found.symm.trans (unknown name text)
          · exact later
        split
        · exact ⟨_, rfl⟩
        · split
          · exact ⟨_, rfl⟩
          · exact ih later _ _

end VideoPreview.Json.Record

namespace VideoPreview

open Json (Tree Document)

def DispatchOptions.trimmed : Tree → Tree := record.trimmed fun _ t => t

def PoolOptions.trimmed : Tree → Tree := record.trimmed fun _ t => t

def ControllerOptions.trimmed : Tree → Tree := record.trimmed fun _ t => t

def PipelineOptions.trimmed : Tree → Tree :=
  record.trimmed fun name => if name = "pool" then PoolOptions.trimmed else id

theorem PipelineOptions.readTrimmed (t : Tree) : record.read (trimmed t) = record.read t := by
  refine Json.Record.readTrimmed (fun f member t a => ?_) t
  simp only [record, List.mem_cons, List.not_mem_nil, or_false] at member
  rcases member with rfl | rfl | rfl
  all_goals simp [Json.Field.of, PoolOptions.trimmed, Json.Record.readTrimmed,
    Json.Record.overlooksNothing]

namespace Config

def trimmed : Tree → Tree := record.trimmed fun name =>
  if name = "dispatch" then DispatchOptions.trimmed
  else if name = "pipeline" then PipelineOptions.trimmed
  else if name = "controller" then ControllerOptions.trimmed
  else id

theorem readTrimmed (t : Tree) : record.read (trimmed t) = record.read t := by
  refine Json.Record.readTrimmed (fun f member t a => ?_) t
  simp only [record, List.mem_cons, List.not_mem_nil, or_false] at member
  rcases member with rfl | rfl | rfl
  all_goals simp [Json.Field.of, DispatchOptions.trimmed, ControllerOptions.trimmed,
    PipelineOptions.readTrimmed, Json.Record.readTrimmed, Json.Record.overlooksNothing]

def ofDocument (d : Document) : Except PreviewError Config :=
  match record.read d.root with
  | .error e => .error (.validation (.unreadableConfig e))
  | .ok c =>
    if d.complete then
      match c.fault? with
      | some e => .error (.validation e)
      | none => .ok c
    else .error (.validation (.unreadableConfig .malformed))

theorem ofBytesDocument (raw : Json.Bytes) : ofBytes raw = ofDocument (Document.ofBytes raw) := by
  unfold ofBytes Json.Reader.run ofDocument
  generalize Document.ofBytes raw = d
  obtain ⟨root, complete⟩ := d
  cases read : record.read root with
  | error e => simp [read, bind, Except.bind]
  | ok c =>
    cases complete <;> cases fault : c.fault? <;> simp [read, fault, bind, Except.bind]

theorem unknownSectionRefused {d : Document} {members : List (Json.Spelling × Tree)}
    {ending : Json.Ending} (root : d.root = .object members ending) {m : Json.Spelling × Tree}
    (among : m ∈ members)
    (unknown : ∀ name ∈ ["dispatch", "pipeline", "controller"], m.1.toString? ≠ some name) :
    ∃ e, ofDocument d = .error (.validation (.unreadableConfig e)) := by
  have none (name : String) (key : m.1.toString? = some name) : record.find? name = none := by
    refine List.find?_eq_none.mpr fun f member same => ?_
    have listed : f.name ∈ ["dispatch", "pipeline", "controller"] :=
      List.mem_map.mpr ⟨f, member, rfl⟩
    exact unknown f.name listed (key.trans (congrArg some (eq_of_beq same).symm))
  obtain ⟨e, refused⟩ := Json.Record.strictRefuses (r := record) rfl among none [] record.start
  refine ⟨e, ?_⟩
  simp [ofDocument, root, Json.Record.read, refused, bind, Except.bind]

theorem trimmedRead {d : Document} (complete : d.complete = true) {c : Config}
    {given : Finset Setting} {shown : Finset Section}
    (means : (trimmed d.root).Means (c.document given shown)) :
    ofDocument d = match (c.overlay given).fault? with
      | some e => .error (.validation e)
      | none => .ok (c.overlay given) := by
  have read := recordLenient.read _ _ _ means (c.documentRead given shown)
  rw [readTrimmed] at read
  cases fault : (c.overlay given).fault? <;> simp [ofDocument, read, complete, fault]

structure UnknownMembers (raw : Json.Bytes) : Prop where
  sections : ∀ members ending, (Document.ofBytes raw).root = .object members ending →
    ∀ m ∈ members, (∀ name ∈ ["dispatch", "pipeline", "controller"], m.1.toString? ≠ some name) →
    ∃ e, ofBytes raw = .error (.validation (.unreadableConfig e))
  options : ofBytes raw =
    ofDocument ⟨trimmed (Document.ofBytes raw).root, (Document.ofBytes raw).complete⟩
  overlaid : (Document.ofBytes raw).complete = true → ∀ c given shown,
    (trimmed (Document.ofBytes raw).root).Means (document c given shown) →
    ofBytes raw = match (c.overlay given).fault? with
      | some e => .error (.validation e)
      | none => .ok (c.overlay given)

theorem unknownMembers (raw : Json.Bytes) : UnknownMembers raw := by
  have outcome := ofBytesDocument raw
  refine ⟨fun members ending root m among unknown => ?_, ?_, fun complete c given shown means => ?_⟩
  · rw [outcome]
    exact unknownSectionRefused root among unknown
  · rw [outcome]
    simp only [ofDocument, readTrimmed]
  · rw [outcome]
    exact trimmedRead complete means

theorem misspelledSectionRefused :
    ∃ e, ofBytes (Tree.ofFields [("contrller", .ofFields [])]).write =
      .error (.validation (.unreadableConfig e)) := by
  have empty : (Tree.ofFields []).Printed := .fields [] (by simp)
  have printed : (Tree.ofFields [("contrller", .ofFields [])]).Printed :=
    .fields _ (by simp [empty])
  have scanned := congrArg Document.root (Tree.documentRead printed.whole printed.prints.spells)
  refine (unknownMembers _).sections _ _ scanned _ List.mem_cons_self fun name member same => ?_
  rw [Json.Spelling.printedString] at same
  cases same
  simp at member

theorem misspelledAccepted :
    ofString "\x7b\"controller\":\x7b\"subtitle_snc\":false\x7d\x7d" = .ok default := by
  let t : Tree := .ofFields [("controller", .ofFields [("subtitle_snc", .bool false)])]
  have inside : (Tree.ofFields [("subtitle_snc", .bool false)]).Printed :=
    .fields _ (by simp)
  have printed : t.Printed := .fields _ (by simp [inside])
  have bytes : "\x7b\"controller\":\x7b\"subtitle_snc\":false\x7d\x7d".toByteArray.toList =
      t.write := by
    rw [Json.textBytes]
    decide +kernel
  have skipped : ControllerOptions.trimmed (.ofFields [("subtitle_snc", .bool false)]) =
      .ofFields [] := by
    rw [ControllerOptions.trimmed, Json.Record.fieldsTrimmed]
    rfl
  have empty : trimmed t = default.document ∅ {.controller} := by
    rw [trimmed, Json.Record.fieldsTrimmed]
    exact congrArg (fun u => Tree.ofFields [("controller", u)]) skipped
  have means : (trimmed t).Means (default.document ∅ {.controller}) := by
    rw [empty]
    exact (default.documentPrinted ∅ {.controller}).whole.means
  have scanned : Document.ofBytes t.write = ⟨t, true⟩ :=
    Tree.documentRead printed.whole printed.prints.spells
  rw [ofString, bytes, ofBytesDocument, scanned, trimmedRead rfl means]
  rfl

end Config
end VideoPreview
