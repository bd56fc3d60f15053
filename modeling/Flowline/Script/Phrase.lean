import Flowline.Script.Flaw

/-!
# Reading expressions

An expression is read by levels of precedence, each level with the ones below it, from pieces of
which the last is the end of a line. A reader gives what it has read and the pieces after it. It
takes a bound on the steps left, which the number of pieces gives.

Where pieces are no expression they are read once more, searching: a searching reader also looks
past the end of every expression, to say more precisely what is missing there.
-/

namespace Flowline.Script

def reservedWords : List String :=
  ["False", "None", "True", "and", "as", "assert", "async", "await", "break", "class", "continue",
    "def", "del", "elif", "else", "except", "finally", "for", "from", "global", "if", "import",
    "in", "is", "lambda", "nonlocal", "not", "or", "pass", "raise", "return", "try", "while",
    "with", "yield"]

def isReserved (word : String) : Bool := reservedWords.contains word

def lineOf : List Piece → Nat
  | [] => 0
  | p :: _ => p.line

/-- The first piece does not fit. -/
def stuck {α : Type} (ps : List Piece) : Except ReadError α :=
  match ps with
  | ⟨.halt why, line, _, _⟩ :: _ => .error ⟨.halt why, line⟩
  | ps => .error ⟨.invalid, lineOf ps⟩

def missing {α : Type} (sign : String) (ps : List Piece) : Except ReadError α :=
  match ps with
  | ⟨.halt _, _, _, _⟩ :: _ => stuck ps
  | ps => .error ⟨.expected sign, lineOf ps⟩

/-- The pieces after the given lexeme, if it is the first. -/
def after? (l : Lexeme) : List Piece → Option (List Piece)
  | [] => none
  | p :: ps => if p.lexeme = l then some ps else none

/-! ## Single lexemes -/

def comparison? : Lexeme → Option Comparison
  | .sign s =>
    if s = "==" then some .eq
    else if s = "!=" then some .ne
    else if s = "<" then some .lt
    else if s = ">" then some .gt
    else if s = "<=" then some .le
    else if s = ">=" then some .ge
    else none
  | _ => none

def sumSign? : Lexeme → Option Arith
  | .sign s => if s = "+" then some .add else if s = "-" then some .sub else none
  | _ => none

def productSign? : Lexeme → Option Arith
  | .sign s => if s = "*" then some .mul else if s = "/" then some .div else none
  | _ => none

def constantOf? (word : String) : Option Expr :=
  if word = "None" then some .nothing
  else if word = "True" then some (.bool true)
  else if word = "False" then some (.bool false)
  else none

/-- Goes on with a text as long as texts follow: side by side they are one. -/
def readTexts (bytes : Bool) (value : String) : List Piece →
    Except ReadError (String × List Piece)
  | [] => .ok (value, [])
  | p :: ps =>
    match p.lexeme with
    | .text s => if bytes then .error ⟨.mixedTexts, p.line⟩ else readTexts bytes (value ++ s) ps
    | .bytes => if bytes then readTexts bytes value ps else .error ⟨.mixedTexts, p.line⟩
    | .faulty (.badEscape f) => .error ⟨.literal (.badEscape f), p.line⟩
    | _ => .ok (value, p :: ps)

/-- A constant, a name, or a literal. Bytes are no value. -/
def readAtom (ps : List Piece) : Except ReadError (Expr × List Piece) :=
  match ps with
  | [] => stuck ps
  | p :: rest =>
    match p.lexeme with
    | .name w =>
      match constantOf? w with
      | some e => .ok (e, rest)
      | none => if isReserved w then stuck ps else .ok (.name w, rest)
    | .number n => .ok (.number n, rest)
    | .text s => (readTexts false s rest).map fun r => (.text r.1, r.2)
    | .bytes => do
      let _ ← readTexts true "" rest
      stuck ps
    | .faulty f => .error ⟨.literal f, p.line⟩
    | .sign _ | .lineEnd | .halt _ => stuck ps

/-! ## Expressions -/

def isNameThenText : List Piece → Bool
  | p :: q :: _ =>
    match p.lexeme, q.lexeme with
    | .name w, .text _ | .name w, .bytes | .name w, .faulty (.badEscape _) => !isReserved w
    | _, _ => false
  | _ => false

/-- How many brackets are open at the end of what was read. -/
def depthBefore (before after : List Piece) : Nat :=
  ((before.take (before.length - after.length)).getLast?.map (·.depth)).getD 0

mutual

/-- An expression. Searching, another one directly after it is an error within brackets, and so is
the beginning of a choice that does not go on. -/
def readExpr : Nat → Bool → List Piece → Except ReadError (Expr × List Piece)
  | 0, _, ps => stuck ps
  | n + 1, searching, ps => do
    let (a, rest) ← readOr n searching ps
    if searching then
      match if isNameThenText ps then stuck rest else readOr n false rest with
      | .ok (_, after) =>
        if 0 < depthBefore rest after then .error ⟨.noComma, lineOf ps⟩ else pure ()
      | .error e => if e.flaw = .invalid then pure () else .error e
      match after? (.name "if") rest with
      | none => return (a, rest)
      | some choice => do
        let (_, after) ← readOr n searching choice
        if (after? (.name "else") after).isSome || (after? (.sign ":") after).isSome then
          return (a, rest)
        else .error ⟨.noElse, lineOf ps⟩
    else return (a, rest)

def readOr : Nat → Bool → List Piece → Except ReadError (Expr × List Piece)
  | 0, _, ps => stuck ps
  | n + 1, searching, ps => do
    let (a, ps) ← readAnd n searching ps
    match after? (.name "or") ps with
    | some ps => do
      let (b, ps) ← readOr n searching ps
      return (.or_ a b, ps)
    | none => return (a, ps)

def readAnd : Nat → Bool → List Piece → Except ReadError (Expr × List Piece)
  | 0, _, ps => stuck ps
  | n + 1, searching, ps => do
    let (a, ps) ← readNot n searching ps
    match after? (.name "and") ps with
    | some ps => do
      let (b, ps) ← readAnd n searching ps
      return (.and_ a b, ps)
    | none => return (a, ps)

def readNot : Nat → Bool → List Piece → Except ReadError (Expr × List Piece)
  | 0, _, ps => stuck ps
  | n + 1, searching, ps =>
    match after? (.name "not") ps with
    | some ps => do
      let (a, ps) ← readNot n searching ps
      return (.not a, ps)
    | none => do
      let (a, ps) ← readSum n searching ps
      let (rest, ps) ← readComparisons n searching ps
      return (if rest.isEmpty then a else .compare a rest, ps)

def readComparisons : Nat → Bool → List Piece →
    Except ReadError (List (Comparison × Expr) × List Piece)
  | 0, _, ps => stuck ps
  | _ + 1, _, [] => .ok ([], [])
  | n + 1, searching, p :: ps =>
    match comparison? p.lexeme with
    | none => .ok ([], p :: ps)
    | some op => do
      let (a, ps) ← readSum n searching ps
      let (rest, ps) ← readComparisons n searching ps
      return ((op, a) :: rest, ps)

def readSum : Nat → Bool → List Piece → Except ReadError (Expr × List Piece)
  | 0, _, ps => stuck ps
  | n + 1, searching, ps => do
    let (a, ps) ← readProduct n searching ps
    readSumRest n searching a ps

def readSumRest : Nat → Bool → Expr → List Piece → Except ReadError (Expr × List Piece)
  | 0, _, _, ps => stuck ps
  | _ + 1, _, a, [] => .ok (a, [])
  | n + 1, searching, a, p :: ps =>
    match sumSign? p.lexeme with
    | none => .ok (a, p :: ps)
    | some op => do
      let (b, ps) ← readProduct n searching ps
      readSumRest n searching (.arith op a b) ps

def readProduct : Nat → Bool → List Piece → Except ReadError (Expr × List Piece)
  | 0, _, ps => stuck ps
  | n + 1, searching, ps => do
    let (a, ps) ← readUnary n searching ps
    readProductRest n searching a ps

def readProductRest : Nat → Bool → Expr → List Piece → Except ReadError (Expr × List Piece)
  | 0, _, _, ps => stuck ps
  | _ + 1, _, a, [] => .ok (a, [])
  | n + 1, searching, a, p :: ps =>
    match productSign? p.lexeme with
    | none => .ok (a, p :: ps)
    | some op => do
      let (b, ps) ← readUnary n searching ps
      readProductRest n searching (.arith op a b) ps

def readUnary : Nat → Bool → List Piece → Except ReadError (Expr × List Piece)
  | 0, _, ps => stuck ps
  | n + 1, searching, ps =>
    match after? (.sign "-") ps, after? (.sign "+") ps, after? (.sign "(") ps with
    | some ps, _, _ => do
      let (a, ps) ← readUnary n searching ps
      return (.negate a, ps)
    | _, some ps, _ => do
      let (a, ps) ← readUnary n searching ps
      return (.negate (.negate a), ps)
    | _, _, some ps => do
      let (a, ps) ← readExpr n searching ps
      match after? (.sign ")") ps with
      | some ps => readCalls n searching a ps
      | none => stuck ps
    | none, none, none => do
      let (a, ps) ← readAtom ps
      readCalls n searching a ps

def readCalls : Nat → Bool → Expr → List Piece → Except ReadError (Expr × List Piece)
  | 0, _, _, ps => stuck ps
  | n + 1, searching, f, ps =>
    match after? (.sign "(") ps, after? (.sign ".") ps with
    | some ps, _ => do
      let (args, ps) ← readArgs n searching ps
      readCalls n searching (.call f args) ps
    | _, some (⟨.name x, line, blanks, depth⟩ :: ps) =>
      if isReserved x then stuck (⟨.name x, line, blanks, depth⟩ :: ps)
      else readCalls n searching (.attribute f x) ps
    | _, some ps => stuck ps
    | none, none => .ok (f, ps)

def readArgs : Nat → Bool → List Piece → Except ReadError (List Expr × List Piece)
  | 0, _, ps => stuck ps
  | n + 1, searching, ps =>
    match after? (.sign ")") ps with
    | some ps => .ok ([], ps)
    | none => do
      let (a, ps) ← readExpr n searching ps
      match after? (.sign ",") ps, after? (.sign ")") ps with
      | some ps, _ => do
        let (rest, ps) ← readArgs n searching ps
        return (a :: rest, ps)
      | _, some ps => return ([a], ps)
      | none, none => stuck ps

end

def expression (searching : Bool) (ps : List Piece) : Except ReadError (Expr × List Piece) :=
  readExpr (10 * ps.length + 10) searching ps

/-- Reads, and reads again, searching, if that finds something invalid. -/
def settled {α : Type} (read : Bool → Except ReadError α) : Except ReadError α :=
  match read false with
  | .ok a => .ok a
  | .error e =>
    if e.flaw = .invalid then
      match read true with
      | .ok _ => .error e
      | .error found => .error found
    else .error e

end Flowline.Script
