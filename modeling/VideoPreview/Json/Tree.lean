import VideoPreview.Json.Token

/-!
The nesting of a JSON text. The tree of a faulty text is cut at the fault: what was read before it
is there, the containers around it are marked as unfinished, and nothing after it is in the tree. A
reader that goes through a tree in order therefore meets the fault where the text has it.
-/
namespace VideoPreview.Json

inductive Ending where
  | closed
  | cut
  deriving DecidableEq, Repr

inductive Tree where
  | null
  | bool (b : Bool)
  | number (n : Numeral)
  | string (s : Spelling)
  | array (items : List Tree) (ending : Ending)
  | object (members : List (Spelling × Tree)) (ending : Ending)
  | broken

structure Document where
  root : Tree
  complete : Bool

inductive Open where
  | array (done : List Tree)
  | object (done : List (Spelling × Tree)) (key : Spelling)

namespace Tree

def unfinished : Open → Tree → Tree
  | .array done, t => .array (t :: done).reverse .cut
  | .object done key, t => .object ((key, t) :: done).reverse .cut

def cut (stack : List Open) (t : Tree) : Document :=
  ⟨stack.foldl (fun inner o => unfinished o inner) t, false⟩

mutual
def readValue (clean : Bool) (stack : List Open) : List Token → Document
  | [] => cut stack .broken
  | .null :: rest => readEnd clean stack .null rest
  | .bool b :: rest => readEnd clean stack (.bool b) rest
  | .number n :: rest => readEnd clean stack (.number n) rest
  | .string s :: rest => readEnd clean stack (.string s) rest
  | .openBracket :: .closeBracket :: rest => readEnd clean stack (.array [] .closed) rest
  | .openBracket :: rest => readValue clean (.array [] :: stack) rest
  | .openBrace :: .closeBrace :: rest => readEnd clean stack (.object [] .closed) rest
  | .openBrace :: rest => readMember clean [] stack rest
  | _ => cut stack .broken

def readMember (clean : Bool) (done : List (Spelling × Tree)) (stack : List Open) :
    List Token → Document
  | .string k :: .colon :: rest => readValue clean (.object done k :: stack) rest
  | .string k :: _ => cut stack (.object ((k, .broken) :: done).reverse .cut)
  | _ => cut stack (.object done.reverse .cut)

def readEnd (clean : Bool) : List Open → Tree → List Token → Document
  | [], v, rest => ⟨v, rest.isEmpty && clean⟩
  | .array done :: stack, v, .comma :: rest => readValue clean (.array (v :: done) :: stack) rest
  | .array done :: stack, v, .closeBracket :: rest =>
    readEnd clean stack (.array (v :: done).reverse .closed) rest
  | .object done k :: stack, v, .comma :: rest => readMember clean ((k, v) :: done) stack rest
  | .object done k :: stack, v, .closeBrace :: rest =>
    readEnd clean stack (.object ((k, v) :: done).reverse .closed) rest
  | o :: stack, v, _ => cut stack (unfinished o v)
end

mutual
def tokens : Tree → List Token
  | .null => [.null]
  | .bool b => [.bool b]
  | .number n => [.number n]
  | .string s => [.string s]
  | .array [] _ => [.openBracket, .closeBracket]
  | .array (t :: ts) _ => .openBracket :: (t.tokens ++ itemTokens ts)
  | .object [] _ => [.openBrace, .closeBrace]
  | .object ((k, t) :: ms) _ =>
    .openBrace :: .string k :: .colon :: (t.tokens ++ memberTokens ms)
  | .broken => []

def itemTokens : List Tree → List Token
  | [] => [.closeBracket]
  | t :: ts => .comma :: (t.tokens ++ itemTokens ts)

def memberTokens : List (Spelling × Tree) → List Token
  | [] => [.closeBrace]
  | (k, t) :: ms => .comma :: .string k :: .colon :: (t.tokens ++ memberTokens ms)
end

def write (t : Tree) : Bytes := t.tokens.flatMap Token.write

end Tree

def Document.ofBytes (raw : Bytes) : Document :=
  let lexed := Lexed.ofBytes raw
  Tree.readValue lexed.complete [] lexed.tokens

end VideoPreview.Json
