import Mathlib.Data.Set.Insert
import Mathlib.Data.List.Pairwise
import VideoPreview.Proofs.Nesting

/-! What a JSON document means, apart from how it is written. The members of an object stand in any
order, numbers and strings in any spelling; a record reads the same from all documents that mean
the same. -/
namespace VideoPreview.Json

namespace Tree

inductive Means : Tree → Tree → Prop where
  | null : Means .null .null
  | bool (b : Bool) : Means (.bool b) (.bool b)
  | number {n m : Numeral} (value : n.value? = m.value?) : Means (.number n) (.number m)
  | string {s u : Spelling} (text : s.toString? = u.toString?) : Means (.string s) (.string u)
  | array (items : List (Tree × Tree)) (each : ∀ p ∈ items, Means p.1 p.2) :
      Means (.array (items.map (·.1)) .closed) (.array (items.map (·.2)) .closed)
  | object (members : List ((Spelling × Tree) × (Spelling × Tree))) {said}
      (order : (members.map (·.2)).Perm said)
      (keys : ∀ p ∈ members, p.1.1.toString? = p.2.1.toString?)
      (each : ∀ p ∈ members, Means p.1.2 p.2.2) :
      Means (.object (members.map (·.1)) .closed) (.object said .closed)

theorem Means.whole {t d : Tree} (means : t.Means d) : t.Whole := by
  induction means with
  | null => exact .null
  | bool b => exact .bool b
  | number value => exact .number _
  | string text => exact .string _
  | array items _ ih =>
    refine .array _ fun t member => ?_
    obtain ⟨p, among, rfl⟩ := List.mem_map.mp member
    exact ih p among
  | object members _ _ _ ih =>
    refine .object _ fun m member => ?_
    obtain ⟨p, among, rfl⟩ := List.mem_map.mp member
    exact ih p among

theorem Whole.means {t : Tree} (whole : t.Whole) : t.Means t := by
  induction whole with
  | null => exact .null
  | bool b => exact .bool b
  | number n => exact .number rfl
  | string s => exact .string rfl
  | array items _ ih =>
    have itself : ∀ p ∈ items.map fun t => (t, t), Means p.1 p.2 := by simpa using ih
    simpa [Function.comp_def] using Means.array _ itself
  | object members _ ih =>
    have itself : ∀ p ∈ members.map fun m => (m, m), Means p.1.2 p.2.2 := by
      intro p member
      obtain ⟨m, among, rfl⟩ := List.mem_map.mp member
      exact ih m among
    have order : ((members.map fun m => (m, m)).map (·.2)).Perm members := by
      simp [Function.comp_def]
    have keys : ∀ p ∈ members.map (fun m => (m, m)), p.1.1.toString? = p.2.1.toString? := by
      intro p member
      obtain ⟨m, -, rfl⟩ := List.mem_map.mp member
      rfl
    simpa [Function.comp_def] using Means.object _ order keys itself

theorem Means.fields (written : List (String × Tree × Tree)) {said : List (String × Tree)}
    (order : (written.map fun w => (w.1, w.2.2)).Perm said)
    (each : ∀ w ∈ written, w.2.1.Means w.2.2) :
    (ofFields (written.map fun w => (w.1, w.2.1))).Means (ofFields said) := by
  let keyed : String × Tree → Spelling × Tree := fun f => (Spelling.ofString f.1, f.2)
  let members := written.map fun w => (keyed (w.1, w.2.1), keyed (w.1, w.2.2))
  have ordered : (members.map (·.2)).Perm (said.map keyed) := by
    simpa [members, Function.comp_def] using order.map keyed
  have keys : ∀ p ∈ members, p.1.1.toString? = p.2.1.toString? :=
    List.forall_mem_map.mpr fun _ _ => rfl
  have object := Means.object members ordered keys (List.forall_mem_map.mpr each)
  simpa [ofFields, members, keyed, Function.comp_def] using object

/-- The text is one of those that give what this document means. -/
def WrittenAs (d : Tree) (text : String) : Prop :=
  ∃ t : Tree, t.Means d ∧ SpellsTokens t.tokens text.toByteArray.toList

theorem WrittenAs.parsed {d : Tree} {text : String} (written : d.WrittenAs text) :
    ∃ t : Tree, t.Means d ∧ Document.ofBytes text.toByteArray.toList = ⟨t, true⟩ := by
  obtain ⟨t, means, spelled⟩ := written
  exact ⟨t, means, documentRead means.whole spelled⟩

theorem WrittenAs.inAnyOrder {members said : List (Spelling × Tree)} (order : members.Perm said)
    (whole : ∀ m ∈ members, m.2.Whole) {text : String}
    (spelled : SpellsTokens (object members .closed).tokens text.toByteArray.toList) :
    (object said .closed).WrittenAs text := by
  have ordered : ((members.map fun m => (m, m)).map (·.2)).Perm said := by
    simpa [Function.comp_def] using order
  have itself := Means.object _ ordered (List.forall_mem_map.mpr fun _ _ => rfl)
    (List.forall_mem_map.mpr fun m among => (whole m among).means)
  exact ⟨object members .closed, by simpa [Function.comp_def] using itself, spelled⟩

theorem Printed.writtenAs {t : Tree} (printed : t.Printed) : t.WrittenAs t.toText :=
  ⟨t, printed.whole.means, printed.spelled⟩

end Tree

def Reader.Lenient (r : Reader α) : Prop :=
  ∀ t d a, t.Means d → r d = .ok a → r t = .ok a

namespace Reader

theorem Lenient.runWritten {r : Reader α} (lenient : r.Lenient) {d : Tree} {text : String} {a : α}
    (written : d.WrittenAs text) (read : r d = .ok a) : r.run text.toByteArray.toList = .ok a := by
  obtain ⟨t, means, document⟩ := written.parsed
  rw [run, document]
  simp [lenient t d a means read, bind, Except.bind]

@[simp] theorem boolLenient : Lenient bool := by
  intro t d a means read
  cases means <;> first | exact read | cases read

@[simp] theorem stringLenient : Lenient string := by
  intro t d a means read
  cases means with
  | string text => simpa only [string, text] using read
  | _ => cases read

theorem integerLenient (lo hi : Int) (expected : String) : Lenient (integer lo hi expected) := by
  intro t d a means read
  cases means with
  | number value =>
    simp only [integer, value] at read ⊢
    split at read
    · exact read
    · exact read
    · cases read
  | _ => cases read

theorem integerRead {i lo hi : Int} (within : lo ≤ i ∧ i ≤ hi)
    (lowest : -(UInt64.size / 2 : Nat) ≤ lo) (highest : hi ≤ maxNatural) (expected : String) :
    integer lo hi expected (.ofInt i) = .ok i := by
  have least := lowest.trans within.1
  have most := within.2.trans highest
  cases i with
  | ofNat k =>
    have value := Numeral.printedValue (Int.ofNat_le.mp most)
    simp only [Int.ofNat_eq_natCast] at within
    simp only [Tree.ofInt, integer, Int.ofNat_eq_natCast, value, within, and_self, if_true]
  | negSucc k =>
    have value := Numeral.printedNegative (Int.negSucc_lt_zero k) least
    simp only [Tree.ofInt, integer, value, within, and_self, if_true]

theorem Lenient.map {r : Reader α} (lenient : r.Lenient) (f : α → β) :
    Lenient fun t => (r t).map f := by
  intro t d b means read
  cases got : r d with
  | error e =>
    simp only [got] at read
    cases read
  | ok a =>
    simp only [got] at read
    simpa only [lenient t d a means got] using read

@[simp] theorem sizeLenient : Lenient size := (integerLenient _ _ _).map _

@[simp] theorem Lenient.option {r : Reader α} (lenient : r.Lenient) : Lenient (option r) := by
  intro t d a means read
  have some := lenient.map Option.some t d a means
  cases means with
  | null => exact read
  | _ => exact some read

end Reader

def Field.Lenient (f : Field α) : Prop :=
  ∀ t d a b, t.Means d → f.store d a = .ok b → f.store t a = .ok b

def Field.Apart (f g : Field α) : Prop :=
  ∀ t u a c, f.store t a >>= g.store u = .ok c ↔ g.store u a >>= f.store t = .ok c

@[simp]
theorem Field.ofLenient {r : Reader β} (lenient : r.Lenient) (name : String) (presence : Presence)
    (set : β → α → α) : (Field.of name presence r set).Lenient := by
  intro t d a b means stored
  exact lenient.map (fun v => set v a) t d b means stored

@[simp] theorem Field.ofApart {r : Reader β} {q : Reader γ} {set : β → α → α} {put : γ → α → α}
    (commute : ∀ v w a, put w (set v a) = set v (put w a)) (name other : String)
    (presence manner : Presence) :
    (Field.of name presence r set).Apart (Field.of other manner q put) := by
  intro t u a c
  cases first : r t <;> cases second : q u <;>
    simp [of, first, second, Except.map, bind, Except.bind, commute]

namespace Record

structure Lenient (r : Record α) : Prop where
  fields : ∀ f ∈ r.fields, f.Lenient
  apart : r.fields.Pairwise Field.Apart

inductive Reads (r : Record α) :
    List (Spelling × Tree) → Set String → α → Set String → α → Prop where
  | done (seen : Set String) (a : α) : Reads r [] seen a seen a
  | skipped {m rest seen a s b} (name : String) (key : m.1.toString? = some name)
      (unknown : r.find? name = none) (loose : r.strict = false) (later : Reads r rest seen a s b) :
      Reads r (m :: rest) seen a s b
  | stored {m rest seen a b s c} (name : String) (f : Field α) (key : m.1.toString? = some name)
      (found : r.find? name = some f) (new : name ∉ seen) (kept : f.store m.2 a = .ok b)
      (later : Reads r rest (insert name seen) b s c) : Reads r (m :: rest) seen a s c

variable {r : Record α}

theorem membersReads {ms : List (Spelling × Tree)} {seen s : List String} {a b : α}
    (read : r.readMembers ms seen a = .ok (s, b)) :
    Reads r ms {x | x ∈ seen} a {x | x ∈ s} b := by
  induction ms generalizing seen a with
  | nil =>
    cases read
    exact .done _ _
  | cons m rest ih =>
    obtain ⟨key, t⟩ := m
    rw [readMembers] at read
    split at read
    · cases read
    rename_i name key
    split at read
    · rename_i unknown
      split at read
      · cases read
      · rename_i loose
        exact .skipped name key unknown (by simpa using loose) (ih read)
    · rename_i f found
      split at read
      · cases read
      rename_i new
      split at read
      · cases read
      · rename_i kept
        have names : {x | x ∈ name :: seen} = insert name {x | x ∈ seen} := by
          ext x
          simp
        exact .stored name f key found new kept (names ▸ ih read)

theorem readsMembers {ms : List (Spelling × Tree)} {names named : Set String} {a b : α}
    (reads : Reads r ms names a named b) (seen : List String) (same : ∀ x, x ∈ seen ↔ x ∈ names) :
    ∃ s, r.readMembers ms seen a = .ok (s, b) ∧ ∀ x, x ∈ s ↔ x ∈ named := by
  induction reads generalizing seen with
  | done => exact ⟨seen, rfl, same⟩
  | skipped name key unknown loose _ ih =>
    obtain ⟨s, read, known⟩ := ih seen same
    refine ⟨s, ?_, known⟩
    simp only [readMembers, key, unknown, loose, Bool.false_eq_true, if_false, read]
  | stored name f key found new kept _ ih =>
    obtain ⟨s, read, known⟩ := ih (name :: seen) fun x => by simp [same]
    have fresh : name ∉ seen := fun old => new ((same name).mp old)
    refine ⟨s, ?_, known⟩
    simp only [readMembers, key, found, fresh, if_false, kept, read]

theorem Reads.respelled (lenient : r.Lenient)
    {members : List ((Spelling × Tree) × (Spelling × Tree))}
    (keys : ∀ p ∈ members, p.1.1.toString? = p.2.1.toString?)
    (each : ∀ p ∈ members, p.1.2.Means p.2.2) {seen s : Set String} {a b : α}
    (reads : Reads r (members.map (·.2)) seen a s b) :
    Reads r (members.map (·.1)) seen a s b := by
  induction members generalizing seen a with
  | nil => exact reads
  | cons p members ih =>
    have same := keys p List.mem_cons_self
    have later := @ih (fun q member => keys q (List.mem_cons_of_mem p member))
      fun q member => each q (List.mem_cons_of_mem p member)
    cases reads with
    | skipped name key unknown loose rest =>
      exact .skipped name (same.trans key) unknown loose (later rest)
    | stored name f key found new kept rest =>
      have store := lenient.fields f (List.mem_of_find?_eq_some found) _ _ _ _
        (each p List.mem_cons_self) kept
      exact .stored name f (same.trans key) found new store (later rest)

theorem apartNames (lenient : r.Lenient) {name other : String} {f g : Field α}
    (first : r.find? name = some f) (second : r.find? other = some g) (distinct : name ≠ other) :
    f.Apart g := by
  have : Std.Symm (Field.Apart (α := α)) := ⟨fun f g apart t u a c => (apart u t a c).symm⟩
  refine lenient.apart.forall (List.mem_of_find?_eq_some first)
    (List.mem_of_find?_eq_some second) ?_
  rintro rfl
  have named := List.find?_some first
  have called := List.find?_some second
  exact distinct ((eq_of_beq named).symm.trans (eq_of_beq called))

theorem Reads.permuted (lenient : r.Lenient) {ms ns : List (Spelling × Tree)} (order : ms.Perm ns)
    {seen s : Set String} {a b : α} (reads : Reads r ms seen a s b) : Reads r ns seen a s b := by
  induction order generalizing seen a with
  | nil => exact reads
  | cons m _ ih =>
    cases reads with
    | skipped name key unknown loose rest => exact .skipped name key unknown loose (ih rest)
    | stored name f key found new kept rest =>
      exact .stored name f key found new kept (ih rest)
  | trans _ _ ih next => exact next (ih reads)
  | swap m n rest =>
    cases reads with
    | skipped name key unknown loose reads =>
      cases reads with
      | skipped other key' unknown' _ reads =>
        exact .skipped other key' unknown' loose (.skipped name key unknown loose reads)
      | stored other g key' found new kept reads =>
        exact .stored other g key' found new kept (.skipped name key unknown loose reads)
    | stored name f key found new kept reads =>
      cases reads with
      | skipped other key' unknown loose reads =>
        exact .skipped other key' unknown loose (.stored name f key found new kept reads)
      | @stored _ _ _ _ c _ _ other g key' found' new' kept' reads =>
        -- No name is read twice, so these are two fields, which are stored in either order.
        obtain ⟨distinct, fresh⟩ : other ≠ name ∧ other ∉ seen := by
          simpa [not_or] using new'
        have both := (apartNames lenient found found' (Ne.symm distinct) n.2 m.2 a c).mp
          (by rw [kept]; exact kept')
        cases first : g.store m.2 a with
        | error e =>
          rw [first] at both
          cases both
        | ok between =>
          rw [first] at both
          have last : name ∉ insert other seen := by simp [Ne.symm distinct, new]
          rw [Set.insert_comm] at reads
          exact .stored other g key' found' fresh first
            (.stored name f key found last both reads)

theorem itemsLenient {fields : List (Field α)} (lenient : ∀ f ∈ fields, f.Lenient)
    {items : List (Tree × Tree)} (each : ∀ p ∈ items, p.1.Means p.2) {a b : α}
    (read : r.readItems .closed fields (items.map (·.2)) a = .ok b) :
    r.readItems .closed fields (items.map (·.1)) a = .ok b := by
  induction items generalizing fields a with
  | nil => exact read
  | cons p items ih =>
    cases fields with
    | nil => cases read
    | cons f fields =>
      simp only [List.map_cons, readItems] at read ⊢
      split at read
      · cases read
      · rename_i c kept
        have store := lenient f List.mem_cons_self _ _ _ _ (each p List.mem_cons_self) kept
        rw [store]
        exact ih (fun g member => lenient g (List.mem_cons_of_mem f member))
          (fun q member => each q (List.mem_cons_of_mem p member)) read

@[simp] theorem Lenient.read (lenient : r.Lenient) : Reader.Lenient r.read := by
  intro t d a means read
  cases means with
  | array items each => exact itemsLenient lenient.fields each read
  | @object members said order keys each =>
    simp only [Record.read, bind, Except.bind] at read
    split at read
    · cases read
    rename_i result taken
    obtain ⟨seen, b⟩ := result
    obtain ⟨s, members, same⟩ := readsMembers
      (((membersReads taken).permuted lenient order.symm).respelled lenient keys each) [] (by simp)
    have absent : r.missing? s = r.missing? seen := by simp [missing?, same]
    simp only [Record.read, bind, Except.bind, members, absent]
    exact read
  | _ => cases read

end Record

def Tree.ofParts (parts : List (String × Option Tree)) : Tree :=
  .ofFields (parts.filterMap fun p => p.2.map fun t => (p.1, t))

def Field.storePart (a : α) (p : Field α × Option Tree) : Except ReadError α :=
  match p.2 with
  | none => .ok a
  | some t => p.1.store t a

namespace Record

variable {r : Record α}

theorem foundByName (names : (r.fields.map (·.name)).Nodup) {f : Field α} (member : f ∈ r.fields) :
    r.find? f.name = some f := by
  unfold find?
  generalize r.fields = fields at member names
  induction fields with
  | nil => cases member
  | cons g fields ih =>
    obtain ⟨other, later⟩ := List.nodup_cons.mp names
    rcases List.mem_cons.mp member with rfl | among
    · simp
    · have distinct : g.name ≠ f.name := fun same =>
        other (List.mem_map.mpr ⟨f, among, same.symm⟩)
      rw [List.find?_cons_of_neg (by simpa using distinct)]
      exact ih among later

def given (fields : List (Field α)) (parts : List (Option Tree)) : List (String × Tree) :=
  ((fields.map (·.name)).zip parts).filterMap fun p => p.2.map fun t => (p.1, t)

theorem membersParts (names : (r.fields.map (·.name)).Nodup) {fields : List (Field α)}
    (among : ∀ f ∈ fields, f ∈ r.fields) (once : (fields.map (·.name)).Nodup)
    (parts : List (Option Tree)) {seen : List String} (new : ∀ f ∈ fields, f.name ∉ seen) (a : α) :
    r.readMembers ((given fields parts).map fun f => (Spelling.ofString f.1, f.2)) seen a =
      ((fields.zip parts).foldlM Field.storePart a).map fun b =>
        (((given fields parts).map (·.1)).reverse ++ seen, b) := by
  induction fields generalizing parts seen a with
  | nil => rfl
  | cons f fields ih =>
    obtain ⟨other, distinct⟩ := List.nodup_cons.mp once
    have rest := @ih (fun g member => among g (List.mem_cons_of_mem f member)) distinct
    cases parts with
    | nil => rfl
    | cons part parts =>
      cases part with
      | none => exact rest parts (fun g member => new g (List.mem_cons_of_mem f member)) a
      | some t =>
        have known := foundByName names (among f List.mem_cons_self)
        have fresh := new f List.mem_cons_self
        have later : ∀ g ∈ fields, g.name ∉ f.name :: seen := by
          intro g member old
          rcases List.mem_cons.mp old with same | old
          · exact other (List.mem_map.mpr ⟨g, member, same⟩)
          · exact new g (List.mem_cons_of_mem f member) old
        have first :
            given (f :: fields) (some t :: parts) = (f.name, t) :: given fields parts := rfl
        simp only [first, List.map_cons, readMembers, Spelling.printedString, known, fresh,
          if_false, List.zip_cons_cons, List.foldlM_cons, Field.storePart]
        cases f.store t a with
        | error e => rfl
        | ok b =>
          refine (rest parts later b).trans ?_
          simp [bind, Except.bind]

theorem readParts (names : (r.fields.map (·.name)).Nodup) (parts : List (Option Tree))
    (required : ∀ f ∈ r.fields, f.presence = .required →
      f.name ∈ (given r.fields parts).map (·.1)) :
    r.read (.ofParts ((r.fields.map (·.name)).zip parts)) =
      (r.fields.zip parts).foldlM Field.storePart r.start := by
  have nothing : ∀ f ∈ r.fields, f.name ∉ ([] : List String) := by simp
  have members := membersParts names (fun _ member => member) names parts nothing r.start
  rw [List.append_nil] at members
  have present : r.missing? ((given r.fields parts).map (·.1)).reverse = none := by
    rw [missing?, Option.map_eq_none_iff, List.find?_eq_none]
    intro f member lacking
    obtain ⟨needed, absent⟩ := of_decide_eq_true lacking
    exact absent (List.mem_reverse.mpr (required f member needed))
  rw [Tree.ofParts, Tree.ofFields, read]
  change (r.readMembers ((given r.fields parts).map _) [] r.start >>= _) = _
  rw [members]
  cases (r.fields.zip parts).foldlM Field.storePart r.start with
  | error e => rfl
  | ok b => simp [Except.map, bind, Except.bind, present]

structure Optional (r : Record α) : Prop where
  names : (r.fields.map (·.name)).Nodup
  free : ∀ f ∈ r.fields, f.presence ≠ .required

theorem Optional.present (optional : r.Optional) (seen : List String) : r.missing? seen = none := by
  have none : r.fields.find? (fun f => f.presence = .required ∧ f.name ∉ seen) = none :=
    List.find?_eq_none.mpr fun f member => by simp [optional.free f member]
  rw [missing?, none, Option.map_none]

theorem Optional.readParts (optional : r.Optional) (parts : List (Option Tree)) :
    r.read (.ofParts ((r.fields.map (·.name)).zip parts)) =
      (r.fields.zip parts).foldlM Field.storePart r.start :=
  Record.readParts optional.names parts fun f member needed =>
    absurd needed (optional.free f member)

end Record
end VideoPreview.Json
