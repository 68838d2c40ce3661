import Mathlib.Data.Finset.Basic
import Mathlib.Tactic.SplitIfs
import VideoPreview.Config
import VideoPreview.Session
import VideoPreview.Dispatch.Hub
import VideoPreview.Proofs.Meaning

/-! Documents that give some of the options. What is given is taken and everything else keeps its
default; with the options of a document that is accepted a context can be built. -/
namespace VideoPreview

open Json (Tree Reader Record)

inductive Setting where
  | backgroundThreads
  | serialThreadName
  | maxBytes
  | maxPerSize
  | reuseDecoded
  | reuseRendered
  | subtitleSync
  deriving DecidableEq, Repr

inductive Section where
  | dispatch
  | pipeline
  | pool
  | controller
  deriving DecidableEq, Repr

def ifGiven (given : Finset Setting) (s : Setting) (t : Tree) : Option Tree :=
  if s ∈ given then some t else none

def sectionOf (shown : Prop) [Decidable shown] (parts : List (String × Option Tree)) :
    Option Tree :=
  if shown ∨ parts.any (·.2.isSome) then some (.ofParts parts) else none

namespace DispatchOptions

def parts (o : DispatchOptions) (given : Finset Setting) : List (String × Option Tree) := [
  ("background_threads",
    ifGiven given .backgroundThreads (.ofOption .ofUInt64 o.backgroundThreads)),
  ("serial_thread_name", ifGiven given .serialThreadName (.ofString o.serialThreadName))]

def overlay (o : DispatchOptions) (given : Finset Setting) : DispatchOptions where
  backgroundThreads :=
    if .backgroundThreads ∈ given then o.backgroundThreads else default.backgroundThreads
  serialThreadName :=
    if .serialThreadName ∈ given then o.serialThreadName else default.serialThreadName

end DispatchOptions

namespace PoolOptions

def parts (o : PoolOptions) (given : Finset Setting) : List (String × Option Tree) := [
  ("max_pool_bytes", ifGiven given .maxBytes (.ofUInt64 o.maxBytes)),
  ("max_buffers_per_size", ifGiven given .maxPerSize (.ofUInt64 o.maxPerSize))]

def overlay (o : PoolOptions) (given : Finset Setting) : PoolOptions where
  maxBytes := if .maxBytes ∈ given then o.maxBytes else default.maxBytes
  maxPerSize := if .maxPerSize ∈ given then o.maxPerSize else default.maxPerSize

end PoolOptions

namespace PipelineOptions

def parts (o : PipelineOptions) (given : Finset Setting) (shown : Finset Section) :
    List (String × Option Tree) := [
  ("pool", sectionOf (.pool ∈ shown) (o.pool.parts given)),
  ("reuse_decoded_frame", ifGiven given .reuseDecoded (.bool o.reuseDecoded)),
  ("reuse_rendered_frame", ifGiven given .reuseRendered (.bool o.reuseRendered))]

def overlay (o : PipelineOptions) (given : Finset Setting) : PipelineOptions where
  pool := o.pool.overlay given
  reuseDecoded := if .reuseDecoded ∈ given then o.reuseDecoded else default.reuseDecoded
  reuseRendered := if .reuseRendered ∈ given then o.reuseRendered else default.reuseRendered

end PipelineOptions

namespace ControllerOptions

def parts (o : ControllerOptions) (given : Finset Setting) : List (String × Option Tree) :=
  [("subtitle_sync", ifGiven given .subtitleSync (.bool o.subtitleSync))]

def overlay (o : ControllerOptions) (given : Finset Setting) : ControllerOptions where
  subtitleSync := if .subtitleSync ∈ given then o.subtitleSync else default.subtitleSync

end ControllerOptions

namespace Config

def parts (c : Config) (given : Finset Setting) (shown : Finset Section) :
    List (String × Option Tree) := [
  ("dispatch", sectionOf (.dispatch ∈ shown) (c.dispatch.parts given)),
  ("pipeline", sectionOf (.pipeline ∈ shown) (c.pipeline.parts given shown)),
  ("controller", sectionOf (.controller ∈ shown) (c.controller.parts given))]

/-- The document with the options that are given, and with these sections though they be empty. -/
def document (c : Config) (given : Finset Setting) (shown : Finset Section) : Tree :=
  .ofParts (c.parts given shown)

def overlay (c : Config) (given : Finset Setting) : Config where
  dispatch := c.dispatch.overlay given
  pipeline := c.pipeline.overlay given
  controller := c.controller.overlay given

end Config

theorem wordRead (n : UInt64) (expected : String) :
    (Reader.integer 0 (UInt64.size - 1 : Nat) expected (.ofUInt64 n)).map
      (fun i => UInt64.ofNat i.toNat) = .ok n := by
  have most : (n.toNat : Int) ≤ (UInt64.size - 1 : Nat) :=
    Int.ofNat_le.mpr (Nat.le_sub_one_of_lt n.toNat_lt)
  have whole :=
    Reader.integerRead ⟨Int.natCast_nonneg n.toNat, most⟩ (by decide) (by decide) expected
  rw [Tree.ofUInt64, whole]
  simp [Except.map]

theorem sizeRead (n : UInt64) : Reader.size (.ofUInt64 n) = .ok n := wordRead n "usize"

theorem threadsRead (n : Option UInt64) :
    Reader.option .size (.ofOption .ofUInt64 n) = .ok n := by
  cases n with
  | none => rfl
  | some n =>
    have read : Reader.option .size (.ofUInt64 n) = (Reader.size (.ofUInt64 n)).map some := rfl
    rw [Tree.ofOption, read, sizeRead]
    rfl

theorem nameRead (s : String) : Reader.string (.ofString s) = .ok s := by
  rw [Tree.ofString, Reader.string, Json.Spelling.printedString]

section Parts

variable {α β : Type} {v : β}

theorem storeWritten {r : Reader β} {t : Tree} (read : r t = .ok v) (name : String)
    (presence : Json.Presence) (set : β → α → α) (a : α) :
    Json.Field.storePart a (.of name presence r set, some t) = .ok (set v a) := by
  simp [Json.Field.storePart, Json.Field.of, read, Except.map]

theorem storeGiven {r : Reader β} {t : Tree} (read : r t = .ok v) (given : Finset Setting)
    (s : Setting) (name : String) (presence : Json.Presence) (set : β → α → α) (a : α) :
    Json.Field.storePart a (.of name presence r set, ifGiven given s t) =
      .ok (if s ∈ given then set v a else a) := by
  unfold ifGiven
  split
  case isTrue => exact storeWritten read name presence set a
  case isFalse => rfl

theorem nothingRead {q : Record β} (optional : q.Optional) {parts : List (String × Option Tree)}
    (nothing : parts.any (·.2.isSome) = false) : q.read (.ofParts parts) = .ok q.start := by
  have none : (parts.filterMap fun p => p.2.map fun t => (p.1, t)) = [] := by
    simpa [List.filterMap_eq_nil_iff, Option.isSome_iff_ne_none] using nothing
  rw [Tree.ofParts, none]
  simp [Tree.ofFields, Record.read, Record.readMembers, optional.present, bind, Except.bind]

theorem storeSection {q : Record β} (optional : q.Optional) {parts : List (String × Option Tree)}
    (read : q.read (.ofParts parts) = .ok v) (shown : Prop) [Decidable shown] (name : String)
    (presence : Json.Presence) (set : β → α → α) {a : α} (unset : set q.start a = a) :
    Json.Field.storePart a (.of name presence q.read set, sectionOf shown parts) =
      .ok (set v a) := by
  unfold sectionOf
  split
  case isTrue => exact storeWritten read name presence set a
  case isFalse absent =>
    have nothing : parts.any (·.2.isSome) = false := by simpa using (not_or.mp absent).2
    have same := (nothingRead optional nothing).symm.trans read
    cases same
    rw [unset]
    rfl

end Parts

namespace DispatchOptions

theorem recordOptional : record.Optional := ⟨by decide, by decide⟩

@[simp] theorem recordLenient : record.Lenient where
  fields := by simp [record]
  apart := by simp [record]

theorem partsRead (o : DispatchOptions) (given : Finset Setting) :
    record.read (.ofParts (o.parts given)) = .ok (o.overlay given) := by
  have parts := recordOptional.readParts [
    ifGiven given .backgroundThreads (.ofOption .ofUInt64 o.backgroundThreads),
    ifGiven given .serialThreadName (.ofString o.serialThreadName)]
  simp only [record, List.zip_cons_cons, List.zip_nil_right, List.foldlM_cons, List.foldlM_nil,
    storeGiven (threadsRead _), storeGiven (nameRead _), bind, Except.bind] at parts
  refine parts.trans ?_
  unfold overlay
  split_ifs <;> rfl

end DispatchOptions

namespace PoolOptions

theorem recordOptional : record.Optional := ⟨by decide, by decide⟩

@[simp] theorem recordLenient : record.Lenient where
  fields := by simp [record]
  apart := by simp [record]

theorem partsRead (o : PoolOptions) (given : Finset Setting) :
    record.read (.ofParts (o.parts given)) = .ok (o.overlay given) := by
  have parts := recordOptional.readParts [ifGiven given .maxBytes (.ofUInt64 o.maxBytes),
    ifGiven given .maxPerSize (.ofUInt64 o.maxPerSize)]
  simp only [record, List.zip_cons_cons, List.zip_nil_right, List.foldlM_cons, List.foldlM_nil,
    storeGiven (sizeRead _), bind, Except.bind] at parts
  refine parts.trans ?_
  unfold overlay
  split_ifs <;> rfl

end PoolOptions

namespace PipelineOptions

theorem recordOptional : record.Optional := ⟨by decide, by decide⟩

@[simp] theorem recordLenient : record.Lenient where
  fields := by simp [record]
  apart := by simp [record]

theorem partsRead (o : PipelineOptions) (given : Finset Setting) (shown : Finset Section) :
    record.read (.ofParts (o.parts given shown)) = .ok (o.overlay given) := by
  have pool := storeSection PoolOptions.recordOptional (o.pool.partsRead given) (.pool ∈ shown)
    "pool" .defaulted (fun v (o : PipelineOptions) => { o with pool := v }) (a := default) rfl
  have decoded : Reader.bool (.bool o.reuseDecoded) = .ok o.reuseDecoded := rfl
  have rendered : Reader.bool (.bool o.reuseRendered) = .ok o.reuseRendered := rfl
  have parts := recordOptional.readParts [sectionOf (.pool ∈ shown) (o.pool.parts given),
    ifGiven given .reuseDecoded (.bool o.reuseDecoded),
    ifGiven given .reuseRendered (.bool o.reuseRendered)]
  simp only [record, List.zip_cons_cons, List.zip_nil_right, List.foldlM_cons, List.foldlM_nil,
    pool, storeGiven decoded, storeGiven rendered, bind, Except.bind] at parts
  refine parts.trans ?_
  unfold overlay
  split_ifs <;> rfl

end PipelineOptions

namespace ControllerOptions

theorem recordOptional : record.Optional := ⟨by decide, by decide⟩

@[simp] theorem recordLenient : record.Lenient where
  fields := by simp [record]
  apart := by simp [record]

theorem partsRead (o : ControllerOptions) (given : Finset Setting) :
    record.read (.ofParts (o.parts given)) = .ok (o.overlay given) := by
  have sync : Reader.bool (.bool o.subtitleSync) = .ok o.subtitleSync := rfl
  have parts := recordOptional.readParts [ifGiven given .subtitleSync (.bool o.subtitleSync)]
  simp only [record, List.zip_cons_cons, List.zip_nil_right, List.foldlM_cons, List.foldlM_nil,
    storeGiven sync, bind, Except.bind] at parts
  refine parts.trans ?_
  unfold overlay
  split_ifs <;> rfl

end ControllerOptions

namespace Config

theorem recordOptional : record.Optional := ⟨by decide, by decide⟩

@[simp] theorem recordLenient : record.Lenient where
  fields := by simp [record]
  apart := by simp [record]

theorem documentRead (c : Config) (given : Finset Setting) (shown : Finset Section) :
    record.read (c.document given shown) = .ok (c.overlay given) := by
  have dispatch := storeSection DispatchOptions.recordOptional (c.dispatch.partsRead given)
    (.dispatch ∈ shown) "dispatch" .defaulted (fun v (c : Config) => { c with dispatch := v })
    (a := default) rfl
  have pipeline := storeSection PipelineOptions.recordOptional
    (c.pipeline.partsRead given shown) (.pipeline ∈ shown) "pipeline" .defaulted
    (fun v (c : Config) => { c with pipeline := v })
    (a := { default with dispatch := c.dispatch.overlay given }) rfl
  have controller := storeSection ControllerOptions.recordOptional
    (c.controller.partsRead given) (.controller ∈ shown) "controller" .defaulted
    (fun v (c : Config) => { c with controller := v })
    (a := ⟨c.dispatch.overlay given, c.pipeline.overlay given, default.controller⟩) rfl
  have parts := recordOptional.readParts [
    sectionOf (.dispatch ∈ shown) (c.dispatch.parts given),
    sectionOf (.pipeline ∈ shown) (c.pipeline.parts given shown),
    sectionOf (.controller ∈ shown) (c.controller.parts given)]
  simp only [record, List.zip_cons_cons, List.zip_nil_right, List.foldlM_cons, List.foldlM_nil,
    dispatch, pipeline, controller, bind, Except.bind] at parts
  exact parts

theorem textRead {d : Tree} {text : String} {c : Config} (written : d.WrittenAs text)
    (read : record.read d = .ok c) :
    ofString text = match c.fault? with
      | some e => .error (.validation e)
      | none => .ok c := by
  have run := recordLenient.read.runWritten written read
  cases fault : c.fault? <;> simp only [ofString, ofBytes, run, fault]

end Config

def Setting.all : Finset Setting := {.backgroundThreads, .serialThreadName, .maxBytes, .maxPerSize,
  .reuseDecoded, .reuseRendered, .subtitleSync}

@[simp] theorem Setting.allGiven (s : Setting) (t : Tree) : ifGiven Setting.all s t = some t := by
  have member : s ∈ Setting.all := by cases s <;> decide
  rw [ifGiven, if_pos member]

def PartPrinted (part : Option Tree) : Prop := ∀ t ∈ part, t.Printed

def PartsPrinted (parts : List (String × Option Tree)) : Prop := ∀ p ∈ parts, PartPrinted p.2

@[simp]
theorem givenPrinted {t : Tree} (printed : t.Printed) (given : Finset Setting) (s : Setting) :
    PartPrinted (ifGiven given s t) := by
  unfold ifGiven
  split <;> simp [PartPrinted, printed]

theorem PartsPrinted.object {parts : List (String × Option Tree)} (printed : PartsPrinted parts) :
    (Tree.ofParts parts).Printed := by
  refine .fields _ fun f member => ?_
  obtain ⟨p, among, same⟩ := List.mem_filterMap.mp member
  obtain ⟨t, present, rfl⟩ := Option.map_eq_some_iff.mp same
  exact printed p among t present

theorem PartsPrinted.section {parts : List (String × Option Tree)} (printed : PartsPrinted parts)
    (shown : Prop) [Decidable shown] : PartPrinted (sectionOf shown parts) := by
  unfold sectionOf
  split <;> simp [PartPrinted, printed.object]

@[simp] theorem wordPrinted (n : UInt64) : (Tree.ofUInt64 n).Printed := .int n.toNat

theorem DispatchOptions.partsPrinted (o : DispatchOptions) (given : Finset Setting) :
    PartsPrinted (o.parts given) := by
  have threads : (Tree.ofOption .ofUInt64 o.backgroundThreads).Printed := by
    cases o.backgroundThreads with
    | none => exact .null
    | some n => exact wordPrinted n
  simp [parts, PartsPrinted, threads]

theorem PoolOptions.partsPrinted (o : PoolOptions) (given : Finset Setting) :
    PartsPrinted (o.parts given) := by
  simp [parts, PartsPrinted]

theorem PipelineOptions.partsPrinted (o : PipelineOptions) (given : Finset Setting)
    (shown : Finset Section) : PartsPrinted (o.parts given shown) := by
  simp [parts, PartsPrinted, (o.pool.partsPrinted given).section]

theorem ControllerOptions.partsPrinted (o : ControllerOptions) (given : Finset Setting) :
    PartsPrinted (o.parts given) := by
  simp [parts, PartsPrinted]

theorem sectionFilled {parts : List (String × Option Tree)} (filled : parts.any (·.2.isSome) = true)
    (shown : Prop) [Decidable shown] : sectionOf shown parts = some (.ofParts parts) :=
  if_pos (.inr filled)

theorem DispatchOptions.partsAll (o : DispatchOptions) :
    Tree.ofParts (o.parts Setting.all) = o.toTree := by
  simp [parts, Tree.ofParts, toTree]

theorem PoolOptions.partsAll (o : PoolOptions) : Tree.ofParts (o.parts Setting.all) = o.toTree := by
  simp [parts, Tree.ofParts, toTree]

theorem PipelineOptions.partsAll (o : PipelineOptions) :
    Tree.ofParts (o.parts Setting.all ∅) = o.toTree := by
  have pool : (o.pool.parts Setting.all).any (·.2.isSome) = true := by
    simp [PoolOptions.parts]
  rw [parts, sectionFilled pool, o.pool.partsAll]
  simp [Tree.ofParts, toTree]

theorem ControllerOptions.partsAll (o : ControllerOptions) :
    Tree.ofParts (o.parts Setting.all) = o.toTree := by
  simp [parts, Tree.ofParts, toTree]

namespace Config

theorem overlayAll (c : Config) : c.overlay Setting.all = c := rfl

theorem documentAll (c : Config) : c.document Setting.all ∅ = c.toTree := by
  have dispatch : (c.dispatch.parts Setting.all).any (·.2.isSome) = true := by
    simp [DispatchOptions.parts]
  have pipeline : (c.pipeline.parts Setting.all ∅).any (·.2.isSome) = true := by
    simp [PipelineOptions.parts]
  have controller : (c.controller.parts Setting.all).any (·.2.isSome) = true := by
    simp [ControllerOptions.parts]
  rw [document, parts, sectionFilled dispatch, sectionFilled pipeline, sectionFilled controller,
    c.dispatch.partsAll, c.pipeline.partsAll, c.controller.partsAll]
  rfl

theorem documentPrinted (c : Config) (given : Finset Setting) (shown : Finset Section) :
    (c.document given shown).Printed := by
  have dispatch := c.dispatch.partsPrinted given
  have pipeline := c.pipeline.partsPrinted given shown
  have controller := c.controller.partsPrinted given
  have whole : PartsPrinted (c.parts given shown) := by
    simp [parts, PartsPrinted, dispatch.section, pipeline.section, controller.section]
  exact whole.object

/-! ### Documents and contexts -/

theorem acceptedValid {text : String} {c : Config} (accepted : ofString text = .ok c) :
    c.fault? = none := by
  unfold ofString ofBytes at accepted
  split at accepted
  · cases accepted
  · split at accepted
    · cases accepted
    · rename_i valid
      cases accepted
      exact valid

theorem validBuilds {c : Config} (valid : c.fault? = none) : c.dispatch.fault? = none := by
  rw [fault?] at valid
  split at valid
  · cases valid
  · rename_i threads
    rw [DispatchOptions.fault?, if_neg threads]

theorem documentsOverlay :
    (∀ (c : Config) (given : Finset Setting) (shown : Finset Section),
      (c.document given shown).WrittenAs (c.document given shown).toText ∧
      ∀ text, (c.document given shown).WrittenAs text →
        ofString text = match (c.overlay given).fault? with
          | some e => .error (.validation e)
          | none => .ok (c.overlay given)) ∧
    (∀ c : Config, c.fault? = none → ofString c.toTree.toText = .ok c) ∧
    ∀ (text : String) (c : Config), ofString text = .ok c →
      ∀ (V σ ρ τ : Type) (trampoline : Trampoline) (handling : FailureHandling) (main : Bool)
        (reason : String),
        (Hub.start trampoline handling main c.dispatch : Except DispatchError (Hub V)) ≠
          .error (.invalidOption reason) ∧
        (Session.start trampoline handling c.dispatch : Except DispatchError (Session σ ρ τ)) ≠
          .error (.invalidOption reason) := by
  refine ⟨fun c given shown => ⟨?_, fun text written => ?_⟩, fun c valid => ?_, ?_⟩
  · exact (c.documentPrinted given shown).writtenAs
  · exact textRead written (c.documentRead given shown)
  · have written := (c.documentPrinted Setting.all ∅).writtenAs
    have read := c.documentRead Setting.all ∅
    rw [documentAll] at written read
    rw [overlayAll] at read
    rw [textRead written read, valid]
  · intro text c accepted V σ ρ τ trampoline handling main reason
    have builds := validBuilds (acceptedValid accepted)
    rw [Hub.start, Session.start, builds]
    exact ⟨(fun refused => nomatch refused), (fun refused => nomatch refused)⟩

def threeThreads : Config := ⟨⟨some 3, "serial-queue"⟩, ⟨.default, true, false⟩, .default⟩

def threeThreadsTree : Tree := .ofFields [
  ("pipeline", .ofFields [("reuse_rendered_frame", .bool false), ("pool", .ofFields [])]),
  ("dispatch", .ofFields [("background_threads", .ofInt 3)])]

def threeThreadsText : String :=
  "\x7b\"pipeline\":\x7b\"reuse_rendered_frame\":false,\"pool\":\x7b\x7d\x7d,"
    ++ "\"dispatch\":\x7b\"background_threads\":3\x7d\x7d"

theorem threeThreadsMeans : threeThreadsTree.Means
    (threeThreads.document {.backgroundThreads, .reuseRendered} {.pool}) := by
  let dispatch : List (String × Tree × Tree) := [("background_threads", .ofInt 3, .ofInt 3)]
  let pipeline : List (String × Tree × Tree) := [
    ("reuse_rendered_frame", .bool false, .bool false), ("pool", .ofFields [], .ofFields [])]
  have empty : (Tree.ofFields []).Means (.ofFields []) := .fields [] .nil (by simp)
  have three : (Tree.ofFields _).Means (.ofFields _) :=
    .fields dispatch (.refl _) (by simp [dispatch, Tree.ofInt, Tree.Means.number])
  have rendered : (Tree.ofFields _).Means (.ofFields _) :=
    .fields pipeline (.swap _ _ _) (by simp [pipeline, empty, Tree.Means.bool])
  exact .fields [("pipeline", _, _), ("dispatch", _, _)] (.swap _ _ _) (by
    simpa using ⟨rendered, three⟩)

theorem threeThreadsSpelled :
    Json.SpellsTokens threeThreadsTree.tokens threeThreadsText.toByteArray.toList := by
  have empty : (Tree.ofFields []).Printed := .fields [] (by simp)
  have three : (Tree.ofFields [("background_threads", .ofInt 3)]).Printed :=
    .fields _ (by simp)
  have rendered : (Tree.ofFields [("reuse_rendered_frame", .bool false),
      ("pool", .ofFields [])]).Printed := .fields _ (by simp [empty])
  have printed : threeThreadsTree.Printed := .fields _ (by simp [three, rendered])
  have bytes : threeThreadsText.toByteArray.toList = threeThreadsTree.write := by
    rw [Json.textBytes]
    decide +kernel
  rw [bytes]
  exact printed.prints.spells

theorem threeThreadsRead :
    ofString threeThreadsText = .ok threeThreads ∧
      ofString threeThreads.toTree.toText = .ok threeThreads ∧
      (Hub.start .pump .record true threeThreads.dispatch : Except DispatchError (Hub Unit)) ≠
        .error (.invalidOption "background_threads must be >= 1 when set") := by
  obtain ⟨overlay, printed, builds⟩ := documentsOverlay
  have outcome := (overlay threeThreads {.backgroundThreads, .reuseRendered} {.pool}).2
    threeThreadsText ⟨threeThreadsTree, threeThreadsMeans, threeThreadsSpelled⟩
  have read : ofString threeThreadsText = .ok threeThreads := outcome
  have built := builds threeThreadsText threeThreads read Unit Unit Unit Unit .pump .record true
    "background_threads must be >= 1 when set"
  exact ⟨read, printed threeThreads rfl, built.1⟩

end Config

end VideoPreview
