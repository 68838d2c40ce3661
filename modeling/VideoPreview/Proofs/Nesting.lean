import VideoPreview.Json.Record
import VideoPreview.Proofs.Literals

/-! From a JSON text to its tree. A text spells tokens, with white space wherever it likes; the
tokens of a tree without faults are read as this tree. What is printed is such a text. -/
namespace VideoPreview.Json

namespace Token

def isMark : Token → Bool
  | number _ => false
  | string _ => false
  | _ => true

inductive Spells : Token → Bytes → Prop where
  | mark (t : Token) (fixed : t.isMark = true) : Spells t t.write
  | string {s raw} (spells : s.Spells raw) : Spells (.string s) (34 :: raw ++ [34])

end Token

inductive SpellsTokens : List Token → Bytes → Prop where
  | done : SpellsTokens [] []
  | space {ts raw} (b : UInt8) (blank : Token.isSpace b = true) (rest : SpellsTokens ts raw) :
      SpellsTokens ts (b :: raw)
  | token {t body ts raw} (spells : Token.Spells t body) (rest : SpellsTokens ts raw) :
      SpellsTokens (t :: ts) (body ++ raw)
  | number {n body ts raw} (spells : Numeral.Spells n body) (stops : Numeral.Stops raw)
      (rest : SpellsTokens ts raw) : SpellsTokens (.number n :: ts) (body ++ raw)

theorem lexSpace {b : UInt8} (blank : Token.isSpace b = true) (rest : Bytes) :
    Lexed.ofBytes (b :: rest) = Lexed.ofBytes rest := by
  rw [Lexed.ofBytes, if_pos blank]

theorem lexToken {b : UInt8} {rest raw : Bytes} {t : Token} {ts : List Token}
    (black : Token.isSpace b = false) (scanned : Token.scan b rest = some (t, raw))
    (later : Lexed.ofBytes raw = ⟨ts, true⟩) : Lexed.ofBytes (b :: rest) = ⟨t :: ts, true⟩ := by
  rw [Lexed.ofBytes, black, if_neg Bool.false_ne_true]
  split
  case h_1 none =>
    rw [scanned] at none
    cases none
  case h_2 r some =>
    rw [scanned] at some
    cases some
    rw [later]

theorem lexSpelled {t : Token} {body raw : Bytes} {ts : List Token} (spells : t.Spells body)
    (later : Lexed.ofBytes raw = ⟨ts, true⟩) : Lexed.ofBytes (body ++ raw) = ⟨t :: ts, true⟩ := by
  cases spells with
  | mark t fixed =>
    cases t with
    | number n => cases fixed
    | string s => cases fixed
    | bool b => cases b <;> exact lexToken (by decide) (by simp [Token.scan, Token.scanWord]) later
    | null => exact lexToken (by decide) (by simp [Token.scan, Token.scanWord]) later
    | _ => exact lexToken (by decide) rfl later
  | @string s inner spells =>
    have scanned : Token.scan 34 (inner ++ 34 :: raw) = some (.string s, raw) := by
      simp [Token.scan, Spelling.scanSpelled spells raw]
    simpa using lexToken (by decide) scanned later

theorem numeralStarts {n : Numeral} {body : Bytes} (spells : Numeral.Spells n body) :
    ∃ b rest, body = b :: rest ∧ (b = 45 ∨ ∃ d < 10, b = Numeral.digitByte d) := by
  obtain ⟨whole, zero, fraction, power⟩ := spells
  cases n.negative with
  | true => exact ⟨45, _, rfl, .inl rfl⟩
  | false =>
    cases digits : n.whole with
    | nil => exact absurd digits whole.1
    | cons d ds =>
      refine ⟨Numeral.digitByte d, _, rfl, .inr ⟨d, ?_, rfl⟩⟩
      exact whole.2 d (digits ▸ List.mem_cons_self)

theorem lexNumber {n : Numeral} {body raw : Bytes} {ts : List Token}
    (spells : Numeral.Spells n body) (stops : Numeral.Stops raw)
    (later : Lexed.ofBytes raw = ⟨ts, true⟩) :
    Lexed.ofBytes (body ++ raw) = ⟨.number n :: ts, true⟩ := by
  obtain ⟨b, rest, rfl, start⟩ := numeralStarts spells
  have read := Numeral.scanSpelled spells stops
  have other : Token.isSpace b = false ∧ Token.scan b (rest ++ raw) =
      (Numeral.scan (b :: (rest ++ raw))).map fun r => (.number r.1, r.2) := by
    rcases start with rfl | ⟨d, small, rfl⟩
    · exact ⟨rfl, rfl⟩
    · have all : ∀ d < 10, Token.isSpace (Numeral.digitByte d) = false ∧
          Numeral.digitByte d ∉ ([91, 93, 123, 125, 44, 58, 110, 116, 102, 34] : Bytes) := by
        decide
      obtain ⟨black, none⟩ := all d small
      simp only [List.mem_cons, List.not_mem_nil, or_false, not_or] at none
      simp [Token.scan, none, black]
  have scanned : Token.scan b (rest ++ raw) = some (.number n, raw) := by
    rw [other.2, ← List.cons_append, read]
    rfl
  exact lexToken other.1 scanned later

theorem lexed {ts : List Token} {raw : Bytes} (text : SpellsTokens ts raw) :
    Lexed.ofBytes raw = ⟨ts, true⟩ := by
  induction text with
  | done => rw [Lexed.ofBytes]
  | space b blank _ ih => rw [lexSpace blank, ih]
  | token spells _ ih => exact lexSpelled spells ih
  | number spells stops _ ih => exact lexNumber spells stops ih

namespace Tree

inductive Whole : Tree → Prop where
  | null : Whole .null
  | bool (b : Bool) : Whole (.bool b)
  | number (n : Numeral) : Whole (.number n)
  | string (s : Spelling) : Whole (.string s)
  | array (items : List Tree) (each : ∀ t ∈ items, Whole t) : Whole (.array items .closed)
  | object (members : List (Spelling × Tree)) (each : ∀ m ∈ members, Whole m.2) :
      Whole (.object members .closed)

theorem Whole.starts {t : Tree} (whole : t.Whole) :
    ∃ first rest, t.tokens = first :: rest ∧ first ≠ .closeBracket := by
  cases whole with
  | null => exact ⟨_, _, by rw [tokens], by simp⟩
  | bool b => exact ⟨_, _, by rw [tokens], by simp⟩
  | number n => exact ⟨_, _, by rw [tokens], by simp⟩
  | string s => exact ⟨_, _, by rw [tokens], by simp⟩
  | array items each => cases items <;> exact ⟨_, _, by rw [tokens], by simp⟩
  | object members each =>
    cases members with
    | nil => exact ⟨_, _, by rw [tokens], by simp⟩
    | cons m rest => exact ⟨_, _, by rw [tokens], by simp⟩

def IsRead (t : Tree) : Prop := ∀ clean stack rest,
  readValue clean stack (t.tokens ++ rest) = readEnd clean stack t rest

theorem itemsRead {ts : List Tree} (each : ∀ t ∈ ts, t.IsRead) (clean : Bool)
    (stack : List Open) (rest : List Token) (done : List Tree) (v : Tree) :
    readEnd clean (.array done :: stack) v (itemTokens ts ++ rest) =
      readEnd clean stack (.array (done.reverse ++ v :: ts) .closed) rest := by
  induction ts generalizing done v with
  | nil => simp [itemTokens, readEnd]
  | cons t ts ih =>
    have first := each t List.mem_cons_self clean (.array (v :: done) :: stack)
      (itemTokens ts ++ rest)
    have later := ih (fun u member => each u (List.mem_cons_of_mem t member)) (v :: done) t
    rw [itemTokens, List.cons_append, List.append_assoc, readEnd, first, later]
    simp

theorem membersRead {ms : List (Spelling × Tree)} (each : ∀ m ∈ ms, m.2.IsRead) (clean : Bool)
    (stack : List Open) (rest : List Token) (done : List (Spelling × Tree)) (k : Spelling)
    (v : Tree) :
    readEnd clean (.object done k :: stack) v (memberTokens ms ++ rest) =
      readEnd clean stack (.object (done.reverse ++ (k, v) :: ms) .closed) rest := by
  induction ms generalizing done k v with
  | nil => simp [memberTokens, readEnd]
  | cons m ms ih =>
    have first := each m List.mem_cons_self clean (.object ((k, v) :: done) m.1 :: stack)
      (memberTokens ms ++ rest)
    have later := ih (fun n member => each n (List.mem_cons_of_mem m member)) ((k, v) :: done)
      m.1 m.2
    simp only [memberTokens, List.cons_append, List.append_assoc, readEnd, readMember]
    rw [first, later]
    simp

theorem Whole.isRead {t : Tree} (whole : t.Whole) : t.IsRead := by
  induction whole with
  | null => intro clean stack rest; rfl
  | bool b => intro clean stack rest; rfl
  | number n => intro clean stack rest; rfl
  | string s => intro clean stack rest; rfl
  | array items each ih =>
    intro clean stack rest
    cases items with
    | nil => rfl
    | cons t ts =>
      obtain ⟨first, others, same, other⟩ := (each t List.mem_cons_self).starts
      have value := ih t List.mem_cons_self clean (.array [] :: stack) (itemTokens ts ++ rest)
      have items := itemsRead (fun u member => ih u (List.mem_cons_of_mem t member)) clean stack
        rest [] t
      rw [tokens, List.cons_append, List.append_assoc, readValue, value, items]
      · rfl
      · simp [same, other]
  | object members each ih =>
    intro clean stack rest
    cases members with
    | nil => rfl
    | cons m ms =>
      have value := ih m List.mem_cons_self clean (.object [] m.1 :: stack)
        (memberTokens ms ++ rest)
      have members := membersRead (fun n member => ih n (List.mem_cons_of_mem m member)) clean
        stack rest [] m.1 m.2
      simp only [tokens, List.cons_append, List.append_assoc, readValue, readMember]
      rw [value, members]
      rfl

theorem documentRead {t : Tree} {raw : Bytes} (whole : t.Whole)
    (text : SpellsTokens t.tokens raw) : Document.ofBytes raw = ⟨t, true⟩ := by
  have read := whole.isRead true [] []
  rw [List.append_nil] at read
  rw [Document.ofBytes, lexed text]
  exact read

end Tree

structure Prints (ts : List Token) : Prop where
  spells : SpellsTokens ts (ts.flatMap Token.write)
  text : IsText (ts.flatMap Token.write)

namespace Prints

variable {ts : List Token}

theorem mark {t : Token} (fixed : t.isMark = true) (rest : Prints ts) : Prints (t :: ts) where
  spells := .token (.mark t fixed) rest.spells
  text := by
    refine IsText.append (.ascii ?_) rest.text
    cases t with
    | number n => cases fixed
    | string s => cases fixed
    | bool b => cases b <;> decide +kernel
    | _ => decide +kernel

theorem string (s : String) (rest : Prints ts) : Prints (.string (Spelling.ofString s) :: ts) where
  spells := .token (.string (Spelling.printedSpells _)) rest.spells
  text := (Spelling.printedText s).append rest.text

theorem number (i : Int) (stops : Numeral.Stops (ts.flatMap Token.write)) (rest : Prints ts) :
    Prints (.number (Numeral.ofInt i) :: ts) where
  spells := .number (Numeral.printedSpells i) stops rest.spells
  text := (IsText.ascii (Numeral.printedAscii i)).append rest.text

end Prints

theorem markStops {t : Token} (among : t ∈ [.comma, .closeBracket, .closeBrace])
    (ts : List Token) : Numeral.Stops ((t :: ts).flatMap Token.write) := by
  intro b rest starts
  simp only [List.mem_cons, List.not_mem_nil, or_false] at among
  rcases among with rfl | rfl | rfl <;> (cases starts; decide)

namespace Tree

inductive Printed : Tree → Prop where
  | null : Printed .null
  | bool (b : Bool) : Printed (.bool b)
  | int (i : Int) : Printed (.ofInt i)
  | string (s : String) : Printed (.ofString s)
  | array (items : List Tree) (each : ∀ t ∈ items, Printed t) : Printed (.array items .closed)
  | fields (fields : List (String × Tree)) (each : ∀ f ∈ fields, Printed f.2) :
      Printed (.ofFields fields)

attribute [simp] Printed.null Printed.bool Printed.int Printed.string

theorem Printed.whole {t : Tree} (printed : t.Printed) : t.Whole := by
  induction printed with
  | null => exact .null
  | bool b => exact .bool b
  | int i => exact .number _
  | string s => exact .string _
  | array items _ ih => exact .array items ih
  | fields fields _ ih =>
    refine .object _ fun m member => ?_
    obtain ⟨f, among, rfl⟩ := List.mem_map.mp member
    exact ih f among

def IsPrinted (t : Tree) : Prop := ∀ ts, Prints ts → Numeral.Stops (ts.flatMap Token.write) →
  Prints (t.tokens ++ ts)

theorem itemsPrinted {items : List Tree} (each : ∀ t ∈ items, t.IsPrinted) {ts : List Token}
    (rest : Prints ts) : Prints (itemTokens items ++ ts) ∧
      Numeral.Stops ((itemTokens items ++ ts).flatMap Token.write) := by
  induction items with
  | nil => exact ⟨rest.mark rfl, markStops (by decide) ts⟩
  | cons t items ih =>
    obtain ⟨later, stops⟩ := ih fun u member => each u (List.mem_cons_of_mem t member)
    have first := each t List.mem_cons_self _ later stops
    rw [itemTokens, List.cons_append, List.append_assoc]
    exact ⟨first.mark rfl, markStops (by decide) _⟩

theorem fieldsPrinted {fields : List (String × Tree)} (each : ∀ f ∈ fields, f.2.IsPrinted)
    {ts : List Token} (rest : Prints ts) :
    Prints (memberTokens (fields.map fun f => (Spelling.ofString f.1, f.2)) ++ ts) ∧
      Numeral.Stops ((memberTokens (fields.map fun f => (Spelling.ofString f.1, f.2)) ++ ts).flatMap
        Token.write) := by
  induction fields with
  | nil => exact ⟨rest.mark rfl, markStops (by decide) ts⟩
  | cons f fields ih =>
    obtain ⟨later, stops⟩ := ih fun g member => each g (List.mem_cons_of_mem f member)
    have first := each f List.mem_cons_self _ later stops
    rw [List.map_cons, memberTokens]
    simp only [List.cons_append, List.append_assoc]
    exact ⟨((first.mark rfl).string f.1).mark rfl, markStops (by decide) _⟩

theorem Printed.isPrinted {t : Tree} (printed : t.Printed) : t.IsPrinted := by
  induction printed with
  | null => exact fun ts rest _ => rest.mark rfl
  | bool b => exact fun ts rest _ => rest.mark rfl
  | int i => exact fun ts rest stops => rest.number i stops
  | string s => exact fun ts rest _ => rest.string s
  | array items _ ih =>
    intro ts rest stops
    cases items with
    | nil => exact (rest.mark rfl).mark rfl
    | cons t items =>
      obtain ⟨later, stops⟩ := itemsPrinted (fun u member => ih u (List.mem_cons_of_mem t member))
        rest
      have first := ih t List.mem_cons_self _ later stops
      rw [tokens, List.cons_append, List.append_assoc]
      exact first.mark rfl
  | fields fields _ ih =>
    intro ts rest stops
    cases fields with
    | nil => exact (rest.mark rfl).mark rfl
    | cons f fields =>
      obtain ⟨later, stops⟩ := fieldsPrinted
        (fun g member => ih g (List.mem_cons_of_mem f member)) rest
      have first := ih f List.mem_cons_self _ later stops
      rw [ofFields, List.map_cons, tokens]
      simp only [List.cons_append, List.append_assoc]
      exact ((first.mark rfl).string f.1).mark rfl

theorem Printed.prints {t : Tree} (printed : t.Printed) : Prints t.tokens := by
  have nothing : Numeral.Stops ([].flatMap Token.write) := fun _ _ none => nomatch none
  simpa using printed.isPrinted [] ⟨.done, .nil⟩ nothing

theorem Printed.spelled {t : Tree} (printed : t.Printed) :
    SpellsTokens t.tokens t.toText.toByteArray.toList := by
  obtain ⟨spells, text⟩ := printed.prints
  obtain ⟨s, read, same⟩ := textOfBytes text
  have shown : t.toText = s := by rw [toText, write, read, Option.getD_some]
  rw [shown, same]
  exact spells

end Tree
end VideoPreview.Json
