import VideoPreview.StreamInfo
import VideoPreview.Subtitle
import VideoPreview.Version
import VideoPreview.Proofs.Strictness

/-! Values that are read again as they were written. A line is restored from every text that gives
its members in some order, with members of other names among them and without those that have the
value that is taken for them anyway. A text that gives a field twice is refused. -/
namespace VideoPreview

open Json (Tree Reader Record Document Spelling)

namespace Json

def Reader.Restores (r : Reader α) (write : α → Tree) : Prop :=
  ∀ a, r.run (write a).toText.toByteArray.toList = .ok a

theorem Reader.restores {r : Reader α} {write : α → Tree} (printed : ∀ a, (write a).Printed)
    (read : ∀ a, r (write a) = .ok a) : r.Restores write := by
  intro a
  rw [run, Tree.documentRead (printed a).whole (printed a).spelled]
  simp [read, bind, Except.bind]

namespace Reader

theorem runRead {r : Reader α} {raw : Bytes} {a : α} (run : r.run raw = .ok a) :
    r (Document.ofBytes raw).root = .ok a := by
  simp only [Reader.run, bind, Except.bind] at run
  split at run
  · cases run
  · rename_i b read
    split at run
    · cases run
      exact read
    · cases run

theorem uint32Read (n : UInt32) : uint32 (.ofUInt32 n) = .ok n := by
  have most : (n.toNat : Int) ≤ (UInt32.size - 1 : Nat) :=
    Int.ofNat_le.mpr (Nat.le_sub_one_of_lt n.toNat_lt)
  have whole := integerRead ⟨Int.natCast_nonneg n.toNat, most⟩ (by decide) (by decide) "u32"
  rw [uint32, Tree.ofUInt32, whole]
  simp [Except.map]

theorem int32Read (n : Int32) : int32 (.ofInt32 n) = .ok n := by
  have whole := integerRead ⟨n.minValue_le_toInt, n.toInt_le⟩ (by decide) (by decide) "i32"
  rw [int32, Tree.ofInt32, whole]
  simp [Except.map]

theorem int64Read (n : Int64) : int64 (.ofInt64 n) = .ok n := by
  have whole := integerRead ⟨n.minValue_le_toInt, n.toInt_le⟩ (by decide) (by decide) "i64"
  rw [int64, Tree.ofInt64, whole]
  simp [Except.map]

@[simp] theorem int32Lenient : Lenient int32 := (integerLenient _ _ _).map _

@[simp] theorem int64Lenient : Lenient int64 := (integerLenient _ _ _).map _

end Reader

namespace Record

variable {r : Record α}

def Foreign (r : Record α) (m : Spelling × Tree) : Prop :=
  ∃ name, m.1.toString? = some name ∧ name ∉ r.fields.map (·.name)

theorem Foreign.skipped (loose : r.strict = false) {m : Spelling × Tree} (foreign : r.Foreign m) :
    r.heeds m = false := by
  obtain ⟨name, key, other⟩ := foreign
  have unknown : r.find? name = none := List.find?_eq_none.mpr fun f member same =>
    other (List.mem_map.mpr ⟨f, member, eq_of_beq same⟩)
  simp [heeds, key, unknown, loose]

theorem readForeign (loose : r.strict = false) {others : List (Spelling × Tree)}
    (foreign : ∀ m ∈ others, r.Foreign m) (members : List (Spelling × Tree)) (ending : Ending) :
    r.read (.object (members ++ others) ending) = r.read (.object members ending) := by
  have skipped : others.filter r.heeds = [] :=
    List.filter_eq_nil_iff.mpr fun m member => by simp [(foreign m member).skipped loose]
  rw [← readTrimmed r.overlooksNothing (.object (members ++ others) ending),
    ← readTrimmed r.overlooksNothing (.object members ending), trimmed, trimmed,
    List.filter_append, skipped, List.append_nil]

def Repeats (r : Record α) (members : List (Spelling × Tree)) : Prop :=
  ∃ name ∈ r.fields.map (·.name), ∃ first second : Spelling × Tree,
    [first, second].Sublist members ∧ first.1.toString? = some name ∧
      second.1.toString? = some name

theorem knownByName {name : String} (known : name ∈ r.fields.map (·.name)) :
    ∃ f, r.find? name = some f := by
  obtain ⟨f, member, rfl⟩ := List.mem_map.mp known
  refine Option.isSome_iff_exists.mp (List.find?_isSome.mpr ⟨f, member, ?_⟩)
  exact beq_self_eq_true f.name

theorem Reads.fresh {members : List (Spelling × Tree)} {seen s : Set String} {a b : α}
    (reads : Reads r members seen a s b) {m : Spelling × Tree} (among : m ∈ members)
    {name : String} (known : name ∈ r.fields.map (·.name)) (key : m.1.toString? = some name) :
    name ∉ seen := by
  induction reads with
  | done => cases among
  | skipped other key' unknown _ _ ih =>
    rcases List.mem_cons.mp among with rfl | later
    · cases key.symm.trans key'
      obtain ⟨f, found⟩ := knownByName known
      cases found.symm.trans unknown
    · exact ih later
  | stored other f key' found new kept _ ih =>
    rcases List.mem_cons.mp among with rfl | later
    · cases key.symm.trans key'
      exact new
    · exact fun old => ih later (Set.mem_insert_of_mem other old)

theorem Reads.once {members : List (Spelling × Tree)} {seen s : Set String} {a b : α}
    (reads : Reads r members seen a s b) : ¬r.Repeats members := by
  rintro ⟨name, known, first, second, both, key, again⟩
  induction reads with
  | done => cases both
  | skipped other key' unknown _ _ ih =>
    cases both with
    | cons _ both => exact ih both
    | cons_cons _ _ =>
      cases key.symm.trans key'
      obtain ⟨f, found⟩ := knownByName known
      cases found.symm.trans unknown
  | stored other f key' found new kept later ih =>
    cases both with
    | cons _ both => exact ih both
    | cons_cons _ rest =>
      cases key.symm.trans key'
      exact later.fresh (List.singleton_sublist.mp rest) known again (Set.mem_insert name _)

theorem Reads.storedEach {members : List (Spelling × Tree)} {seen s : Set String} {a b : α}
    (reads : Reads r members seen a s b) {m : Spelling × Tree} (among : m ∈ members)
    {name : String} (key : m.1.toString? = some name) {f : Field α}
    (found : r.find? name = some f) :
    ∃ c d, f.store m.2 c = .ok d := by
  induction reads with
  | done => cases among
  | skipped other key' unknown _ _ ih =>
    rcases List.mem_cons.mp among with rfl | later
    · cases key.symm.trans key'
      cases found.symm.trans unknown
    · exact ih later
  | stored other g key' found' new kept _ ih =>
    rcases List.mem_cons.mp among with rfl | later
    · cases key.symm.trans key'
      cases found.symm.trans found'
      exact ⟨_, _, kept⟩
    · exact ih later

theorem readObject {members : List (Spelling × Tree)} {ending : Ending} {a : α}
    (read : r.read (.object members ending) = .ok a) :
    ∃ s b, Reads r members ∅ r.start s b := by
  simp only [Record.read, bind, Except.bind] at read
  split at read
  · cases read
  · rename_i result taken
    have reads := membersReads taken
    exact ⟨_, _, by simpa using reads⟩

theorem readOnce {members : List (Spelling × Tree)} {ending : Ending} {a : α}
    (read : r.read (.object members ending) = .ok a) : ¬r.Repeats members := by
  obtain ⟨s, b, reads⟩ := readObject read
  exact reads.once

def RefusesRepeats (r : Record α) : Prop := ∀ raw members ending,
  (Document.ofBytes raw).root = .object members ending → r.Repeats members →
    ∃ e, r.read.run raw = .error e

theorem refusesRepeats (r : Record α) : r.RefusesRepeats := by
  intro raw members ending root twice
  cases outcome : r.read.run raw with
  | error e => exact ⟨e, rfl⟩
  | ok a =>
    have read := Reader.runRead outcome
    rw [root] at read
    exact absurd twice (readOnce read)

end Record
end Json

theorem Version.restored : Version.read.Restores Version.toTree :=
  Reader.restores (fun v => wordPrinted v.number) fun v => by
    have number : Reader.uint64 (.ofUInt64 v.number) = .ok v.number := wordRead v.number "u64"
    rw [read, toTree, number]
    rfl

theorem FrameRate.treeRead (r : FrameRate) : record.read r.toTree = .ok r := by
  have parts := record.readParts (by decide) [some (.ofUInt32 r.num), some (.ofUInt32 r.den)]
    (by simp [record, Json.Field.of, Record.given])
  simp only [record, List.zip_cons_cons, List.zip_nil_right, List.foldlM_cons, List.foldlM_nil,
    storeWritten (Reader.uint32Read _), bind, Except.bind] at parts
  exact parts

theorem FrameRate.restored : FrameRate.record.read.Restores FrameRate.toTree :=
  Reader.restores (fun r => .fields _ (by simp [Tree.ofUInt32])) treeRead

theorem restoresParts {q : Record α} {write : α → Tree} {parts : α → List (String × Option Tree)}
    (whole : ∀ o, Tree.ofParts (parts o) = write o) (printed : ∀ o, PartsPrinted (parts o))
    (read : ∀ o, q.read (.ofParts (parts o)) = .ok o) : q.read.Restores write :=
  Reader.restores (fun o => whole o ▸ (printed o).object) fun o => whole o ▸ read o

theorem DispatchOptions.restored : DispatchOptions.record.read.Restores DispatchOptions.toTree :=
  restoresParts partsAll (fun o => o.partsPrinted Setting.all) fun o => o.partsRead Setting.all

theorem PoolOptions.restored : PoolOptions.record.read.Restores PoolOptions.toTree :=
  restoresParts partsAll (fun o => o.partsPrinted Setting.all) fun o => o.partsRead Setting.all

theorem PipelineOptions.restored : PipelineOptions.record.read.Restores PipelineOptions.toTree :=
  restoresParts partsAll (fun o => o.partsPrinted Setting.all ∅) fun o => o.partsRead Setting.all ∅

theorem ControllerOptions.restored :
    ControllerOptions.record.read.Restores ControllerOptions.toTree :=
  restoresParts partsAll (fun o => o.partsPrinted Setting.all) fun o => o.partsRead Setting.all

/-! ### Lines -/

inductive Omittable where
  | layer
  | style
  | comment
  deriving DecidableEq, Repr

section Parts

variable {α β : Type} {v : β}

theorem storeUnlessOmitted {r : Reader β} {t : Tree} (read : r t = .ok v) (omitted : Prop)
    [Decidable omitted] (name : String) (presence : Json.Presence) (set : β → α → α) {a : α}
    (unset : omitted → set v a = a) :
    Json.Field.storePart a (.of name presence r set, if omitted then none else some t) =
      .ok (set v a) := by
  split
  case isTrue left => rw [unset left, Json.Field.storePart]
  case isFalse => exact storeWritten read name presence set a

@[simp] theorem unlessOmittedPrinted {t : Tree} (printed : t.Printed) (omitted : Prop)
    [Decidable omitted] : PartPrinted (if omitted then none else some t) := by
  split <;> simp [PartPrinted, printed]

end Parts

namespace SubtitleLine

def IsUnset (l : SubtitleLine) : Omittable → Prop
  | .layer => l.layer = 0
  | .style => l.style = ""
  | .comment => l.comment = false

def parts (l : SubtitleLine) (omitted : Finset Omittable) : List (String × Option Tree) := [
  ("start_ms", some (.ofInt64 l.start)),
  ("end_ms", some (.ofInt64 l.stop)),
  ("layer", if .layer ∈ omitted then none else some (.ofInt32 l.layer)),
  ("style", if .style ∈ omitted then none else some (.ofString l.style)),
  ("text", some (.ofString l.text)),
  ("comment", if .comment ∈ omitted then none else some (.bool l.comment))]

def members (l : SubtitleLine) (omitted : Finset Omittable) (others : List (Spelling × Tree)) :
    List (Spelling × Tree) :=
  ((l.parts omitted).filterMap fun p => p.2.map fun t => (Spelling.ofString p.1, t)) ++ others

def document (l : SubtitleLine) (omitted : Finset Omittable) (others : List (Spelling × Tree)) :
    Tree :=
  .object (l.members omitted others) .closed

@[simp] theorem recordLenient : record.Lenient where
  fields := by simp [record]
  apart := by simp [record]

theorem partsRead (l : SubtitleLine) {omitted : Finset Omittable}
    (unset : ∀ s ∈ omitted, l.IsUnset s) : record.read (.ofParts (l.parts omitted)) = .ok l := by
  have flag : Reader.bool (.bool l.comment) = .ok l.comment := rfl
  have layer := storeUnlessOmitted (Reader.int32Read l.layer) (.layer ∈ omitted) "layer" .defaulted
    (fun v (l : SubtitleLine) => { l with layer := v }) (a := ⟨l.start, l.stop, 0, "", "", false⟩)
    fun left => congrArg (SubtitleLine.mk l.start l.stop · "" "" false) (unset .layer left)
  have style := storeUnlessOmitted (nameRead l.style) (.style ∈ omitted) "style" .defaulted
    (fun v (l : SubtitleLine) => { l with style := v })
    (a := ⟨l.start, l.stop, l.layer, "", "", false⟩)
    fun left => congrArg (SubtitleLine.mk l.start l.stop l.layer · "" false) (unset .style left)
  have comment := storeUnlessOmitted flag (.comment ∈ omitted) "comment" .defaulted
    (fun v (l : SubtitleLine) => { l with comment := v })
    (a := ⟨l.start, l.stop, l.layer, l.style, l.text, false⟩)
    fun left => congrArg (SubtitleLine.mk l.start l.stop l.layer l.style l.text)
      (unset .comment left)
  have parts := record.readParts (by decide) ((l.parts omitted).map (·.2))
    (by simp [record, Json.Field.of, Record.given, SubtitleLine.parts])
  simp only [SubtitleLine.parts, record, List.map_cons, List.map_nil, List.zip_cons_cons,
    List.zip_nil_right, List.foldlM_cons, List.foldlM_nil, storeWritten (Reader.int64Read _),
    storeWritten (nameRead _), layer, style, comment, bind, Except.bind] at parts
  exact parts

theorem documentRead (l : SubtitleLine) {omitted : Finset Omittable}
    (unset : ∀ s ∈ omitted, l.IsUnset s) {others : List (Spelling × Tree)}
    (foreign : ∀ m ∈ others, record.Foreign m) :
    record.read (l.document omitted others) = .ok l := by
  have own : Tree.ofParts (l.parts omitted) = .object (l.members omitted []) .closed := by
    simp only [Tree.ofParts, Tree.ofFields, members, List.map_filterMap, Option.map_map,
      Function.comp_def, List.append_nil]
  have read := l.partsRead unset
  rw [own, members, List.append_nil] at read
  rw [document, members, Json.Record.readForeign rfl foreign, read]

theorem partsPrinted (l : SubtitleLine) (omitted : Finset Omittable) :
    PartsPrinted (l.parts omitted) := by
  have time (n : Int64) : PartPrinted (some (.ofInt64 n)) := by
    simp [PartPrinted, Tree.ofInt64]
  have text : PartPrinted (some (.ofString l.text)) := by simp [PartPrinted]
  simp [parts, PartsPrinted, time, text, Tree.ofInt32]

theorem membersWhole (l : SubtitleLine) (omitted : Finset Omittable)
    {others : List (Spelling × Tree)} (whole : ∀ m ∈ others, m.2.Whole) :
    ∀ m ∈ l.members omitted others, m.2.Whole := by
  intro m member
  rcases List.mem_append.mp member with own | other
  · obtain ⟨p, among, same⟩ := List.mem_filterMap.mp own
    obtain ⟨t, present, rfl⟩ := Option.map_eq_some_iff.mp same
    exact (l.partsPrinted omitted p among t present).whole
  · exact whole m other

theorem restored : record.read.Restores toTree :=
  restoresParts (fun l => by simp [parts, Tree.ofParts, toTree]) (fun l => l.partsPrinted ∅)
    fun l => l.partsRead fun s none => absurd none (Finset.notMem_empty s)

end SubtitleLine

namespace PipelineOptions

inductive GivesPool : Tree → Tree → Prop where
  | member {members ending m} (among : m ∈ members) (key : m.1.toString? = some "pool") :
      GivesPool (.object members ending) m.2
  | item (t : Tree) (items : List Tree) (ending : Json.Ending) :
      GivesPool (.array (t :: items) ending) t

theorem poolRead {d t : Tree} (gives : GivesPool d t) {o : PipelineOptions}
    (read : record.read d = .ok o) : ∃ p, PoolOptions.record.read t = .ok p := by
  have stored {a b : PipelineOptions}
      (kept : (PoolOptions.record.read t).map (fun v => { a with pool := v }) = .ok b) :
      ∃ p, PoolOptions.record.read t = .ok p := by
    cases outcome : PoolOptions.record.read t with
    | error e => rw [outcome] at kept; cases kept
    | ok p => exact ⟨p, rfl⟩
  cases gives with
  | member among key =>
    obtain ⟨s, b, reads⟩ := Json.Record.readObject read
    obtain ⟨a, b, kept⟩ := reads.storedEach among key rfl
    exact stored kept
  | item items ending =>
    simp only [Json.Record.read, record, Json.Record.readItems] at read
    split at read
    · cases read
    · rename_i kept
      exact stored kept

theorem poolRefusesRepeats {raw : Json.Bytes} {members : List (Spelling × Tree)}
    {ending : Json.Ending} (gives : GivesPool (Document.ofBytes raw).root (.object members ending))
    (twice : PoolOptions.record.Repeats members) : ∃ e, record.read.run raw = .error e := by
  cases outcome : record.read.run raw with
  | error e => exact ⟨e, rfl⟩
  | ok o =>
    obtain ⟨p, read⟩ := poolRead gives (Reader.runRead outcome)
    exact absurd twice (Json.Record.readOnce read)

end PipelineOptions

structure Restored : Prop where
  version : Version.read.Restores Version.toTree
  rate : FrameRate.record.read.Restores FrameRate.toTree
  line : SubtitleLine.record.read.Restores SubtitleLine.toTree
  dispatch : DispatchOptions.record.read.Restores DispatchOptions.toTree
  pool : PoolOptions.record.read.Restores PoolOptions.toTree
  pipeline : PipelineOptions.record.read.Restores PipelineOptions.toTree
  controller : ControllerOptions.record.read.Restores ControllerOptions.toTree
  lineWritten : ∀ (l : SubtitleLine) (omitted : Finset Omittable) (others members) (text : String),
    (∀ m ∈ others, m.2.Whole) → members.Perm (l.members omitted others) →
    Json.SpellsTokens (Tree.object members .closed).tokens text.toByteArray.toList →
    (l.document omitted others).WrittenAs text
  lineRead : ∀ (l : SubtitleLine) (omitted : Finset Omittable) (others) (text : String),
    (∀ s ∈ omitted, l.IsUnset s) → (∀ m ∈ others, SubtitleLine.record.Foreign m) →
    (l.document omitted others).WrittenAs text →
    SubtitleLine.record.read.run text.toByteArray.toList = .ok l
  rateOnce : FrameRate.record.RefusesRepeats
  lineOnce : SubtitleLine.record.RefusesRepeats
  dispatchOnce : DispatchOptions.record.RefusesRepeats
  poolOnce : PoolOptions.record.RefusesRepeats
  pipelineOnce : PipelineOptions.record.RefusesRepeats
  controllerOnce : ControllerOptions.record.RefusesRepeats
  poolInsideOnce : ∀ raw members ending,
    PipelineOptions.GivesPool (Document.ofBytes raw).root (.object members ending) →
    PoolOptions.record.Repeats members → ∃ e, PipelineOptions.record.read.run raw = .error e

theorem valuesRestored : Restored where
  version := Version.restored
  rate := FrameRate.restored
  line := SubtitleLine.restored
  dispatch := DispatchOptions.restored
  pool := PoolOptions.restored
  pipeline := PipelineOptions.restored
  controller := ControllerOptions.restored
  lineWritten l omitted others members text whole order spelled := by
    refine .inAnyOrder order (fun m member => ?_) spelled
    exact l.membersWhole omitted whole m (order.mem_iff.mp member)
  lineRead l omitted others text unset foreign written :=
    SubtitleLine.recordLenient.read.runWritten written (l.documentRead unset foreign)
  rateOnce := FrameRate.record.refusesRepeats
  lineOnce := SubtitleLine.record.refusesRepeats
  dispatchOnce := DispatchOptions.record.refusesRepeats
  poolOnce := PoolOptions.record.refusesRepeats
  pipelineOnce := PipelineOptions.record.refusesRepeats
  controllerOnce := ControllerOptions.record.refusesRepeats
  poolInsideOnce raw members ending gives twice := PipelineOptions.poolRefusesRepeats gives twice

def lastLine : SubtitleLine := ⟨-10, 20, 0, "", "hi", true⟩

def lastLineNote : Tree := .array [.ofFields [("y", .null)]] .closed

def lastLineFields : List (String × Tree) := [
  ("x", lastLineNote),
  ("comment", .bool true),
  ("text", .ofString "hi"),
  ("end_ms", .ofInt 20),
  ("start_ms", .ofInt (-10))]

def lastLineText : String :=
  "\x7b\"x\":[\x7b\"y\":null\x7d],\"comment\":true,\"text\":\"hi\","
    ++ "\"end_ms\":20,\"start_ms\":-10\x7d"

theorem lastLineNotePrinted : lastLineNote.Printed := by
  have inside : (Tree.ofFields [("y", .null)]).Printed := .fields _ (by simp)
  exact .array _ (by simp [inside])

theorem lastLineSpelled :
    Json.SpellsTokens (Tree.ofFields lastLineFields).tokens lastLineText.toByteArray.toList := by
  have printed : (Tree.ofFields lastLineFields).Printed := .fields _ (by
    simp [lastLineFields, lastLineNotePrinted])
  have bytes : lastLineText.toByteArray.toList = (Tree.ofFields lastLineFields).write := by
    rw [Json.textBytes]
    decide +kernel
  rw [bytes]
  exact printed.prints.spells

def numTwice : List (String × Tree) := [("num", .ofInt 25), ("den", .ofInt 1), ("num", .ofInt 24)]

theorem numTwiceRepeats :
    FrameRate.record.Repeats (numTwice.map fun f => (Spelling.ofString f.1, f.2)) := by
  refine ⟨"num", by decide, (Spelling.ofString "num", .ofInt 25),
    (Spelling.ofString "num", .ofInt 24), ?_, Spelling.printedString _, Spelling.printedString _⟩
  exact (List.sublist_cons_self _ _).cons_cons _

theorem lastLineRestored :
    SubtitleLine.record.read.run lastLineText.toByteArray.toList = .ok lastLine ∧
      ∃ e, FrameRate.record.read.run (Tree.ofFields numTwice).write = .error e := by
  obtain ⟨-, -, -, -, -, -, -, lineWritten, lineRead, rateOnce, -⟩ := valuesRestored
  constructor
  · let others : List (Spelling × Tree) := [(Spelling.ofString "x", lastLineNote)]
    have backwards : (lastLineFields.map fun f => (Spelling.ofString f.1, f.2)) =
        (lastLine.members {.layer, .style} others).reverse := rfl
    have order := List.reverse_perm (lastLine.members {.layer, .style} others)
    rw [← backwards] at order
    have whole : ∀ m ∈ others, m.2.Whole := by simp [others, lastLineNotePrinted.whole]
    have foreign : ∀ m ∈ others, SubtitleLine.record.Foreign m := by
      simp only [others, List.mem_singleton, forall_eq]
      exact ⟨"x", Spelling.printedString "x", by decide⟩
    have unset : ∀ s ∈ ({.layer, .style} : Finset Omittable), lastLine.IsUnset s := by
      simp [SubtitleLine.IsUnset, lastLine]
    have written := lineWritten lastLine _ others _ lastLineText whole order lastLineSpelled
    exact lineRead lastLine _ others lastLineText unset foreign written
  · have printed : (Tree.ofFields numTwice).Printed := .fields _ (by
      simp [numTwice])
    have scanned := Tree.documentRead printed.whole printed.prints.spells
    exact rateOnce _ _ _ (congrArg Document.root scanned) numTwiceRepeats

end VideoPreview
