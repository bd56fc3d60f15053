import Flowline.Script.Phrase

/-!
# Reading a generated program

Statements are read line by line; the lines of a body are indented further than its head. Where a line
halts at its beginning, nothing else is said of it. Every reader of statements takes a bound on the
steps left, which the number of lines gives.

A text that cannot be cut into lexemes is refused before anything else is looked at, and the places
of the statements are looked at last. A statement on the line of its head and a decorated function
are not among the forms that are read.
-/

namespace Flowline.Script

/-! ## Lines -/

/-- A line that holds something; its last piece is the end of the line. -/
structure Line where
  number : Nat
  column : Nat
  pieces : List Piece
deriving DecidableEq, Repr

/-- The lines of pieces, given those of the present line, the last first. Lines of which only the
end is there are left out. -/
def Line.group (present : List Piece) : List Piece → List Line
  | [] => []
  | p :: ps =>
    if p.lexeme = .lineEnd then
      match (p :: present).reverse with
      | first :: q :: qs => ⟨first.line, first.blanks, first :: q :: qs⟩ :: group [] ps
      | _ => group [] ps
    else group (p :: present) ps

def Line.after? (l : Line) (word : String) : Option (List Piece) :=
  Script.after? (.name word) l.pieces

/-- The number of the line where it ends, which texts and brackets can put further down. -/
def Line.lastNumber (l : Line) : Nat := (l.pieces.getLast?.map (·.line)).getD l.number

/-- Why cutting halts where the line begins, if it does. -/
def Line.halt? (l : Line) : Option Halt :=
  match l.pieces with
  | ⟨.halt why, _, _, _⟩ :: _ => some why
  | _ => none

/-! ## Ends of lines and heads -/

/-- Nothing but the end of the line is left. -/
def atEnd {α : Type} (a : α) (ps : List Piece) : Except ReadError α :=
  match after? .lineEnd ps with
  | some _ => .ok a
  | none => stuck ps

def needColon {α : Type} (a : α) (ps : List Piece) : Except ReadError α :=
  match after? (.sign ":") ps with
  | some ps => atEnd a ps
  | none => missing ":" ps

/-- The colon at the end of a head. Searching, it is missed where the line ends. -/
def colon {α : Type} (searching : Bool) (a : α) (ps : List Piece) : Except ReadError α :=
  match after? (.sign ":") ps with
  | some ps => atEnd a ps
  | none => if searching && (after? .lineEnd ps).isSome then needColon a ps else stuck ps

/-- The condition of a head, or the kind of errors of a clause. -/
def readCondition (searching : Bool) (ps : List Piece) : Except ReadError Expr := do
  let (e, ps) ← expression searching ps
  colon searching e ps

/-- The kind of errors that a clause takes, if it does not take all. -/
def readKind (searching : Bool) (ps : List Piece) : Except ReadError (Option Expr) :=
  if (after? (.sign ":") ps).isSome then needColon none ps
  else (readCondition searching ps).map some

/-- What an expression is called when it is assigned and cannot be. -/
def Expr.unassignable? : Expr → Option String
  | .nothing => some "None"
  | .bool b => some (if b then "True" else "False")
  | .number _ | .text _ => some "literal"
  | .negate _ | .not _ | .arith _ _ _ | .and_ _ _ | .or_ _ _ => some "expression"
  | .call _ _ => some "function call"
  | .name _ | .compare _ _ | .attribute _ _ => none

/-- Searching, says what is assigned that cannot be. -/
def refuseTarget {α : Type} (searching : Bool) (ps : List Piece) : Except ReadError α :=
  if searching then do
    let (e, _) ← expression searching ps
    match e.unassignable? with
    | some what => .error ⟨.badTarget what, lineOf ps⟩
    | none => stuck ps
  else stuck ps

/-- A name that can be assigned, with the pieces after it. -/
def target? : List Piece → Option (String × List Piece)
  | [] => none
  | p :: ps =>
    match p.lexeme with
    | .name x => if isReserved x then none else some (x, ps)
    | _ => none

def readLoop (searching : Bool) (ps : List Piece) : Except ReadError (String × Expr) :=
  match target? ps with
  | none => refuseTarget searching ps
  | some (x, rest) =>
    match after? (.name "in") rest with
    | none => refuseTarget searching ps
    | some source => do
      let (e, ps) ← expression searching source
      colon false (x, e) ps

/-- Parameters, each with a comma after it or the closing bracket, and what follows them. -/
def plainParams : List Piece → List String × List Piece
  | p :: q :: ps =>
    match p.lexeme with
    | .name x =>
      if isReserved x then ([], p :: q :: ps)
      else if q.lexeme = .sign "," then
        let r := plainParams ps
        (x :: r.1, r.2)
      else if q.lexeme = .sign ")" then ([x], q :: ps)
      else ([], p :: q :: ps)
    | _ => ([], p :: q :: ps)
  | ps => ([], ps)

def areWrapped (ps : List Piece) : Bool :=
  match after? (.sign "(") (plainParams ps).2 with
  | none => false
  | some inner =>
    let (names, ps) := plainParams inner
    !names.isEmpty && (after? (.sign ")") ((after? (.sign ",") ps).getD ps)).isSome

def readSignature (searching : Bool) (ps : List Piece) : Except ReadError (String × List String) :=
  match target? ps with
  | none => stuck ps
  | some (f, ps) =>
    match after? (.sign "(") ps with
    | none => missing "(" ps
    | some ps =>
      let (params, rest) := plainParams ps
      match after? (.sign ")") rest with
      | some rest => needColon (f, params) rest
      | none =>
        if searching && areWrapped ps then .error ⟨.wrappedParams, lineOf ps⟩
        else stuck ((target? rest).elim rest (·.2))

/-! ## Statements -/

def readSimple (searching : Bool) (l : Line) : Except ReadError Stmt :=
  match l.after? "pass", l.after? "break", l.after? "continue", l.after? "return" with
  | some ps, _, _, _ => atEnd .pass ps
  | _, some ps, _, _ => atEnd (.leave l.number) ps
  | _, _, some ps, _ => atEnd (.next l.number) ps
  | _, _, _, some ps =>
    if (after? .lineEnd ps).isSome then .ok (.give l.number none)
    else do
      let (e, ps) ← expression searching ps
      atEnd (.give l.number (some e)) ps
  | none, none, none, none =>
    match l.pieces with
    | ⟨.name x, _, _, _⟩ :: ⟨.sign "=", _, _, _⟩ :: ps =>
      if isReserved x then refuseTarget searching l.pieces
      else do
        let (e, ps) ← expression searching ps
        atEnd (.assign l.number x e) ps
    | ps => do
      let (e, ps) ← expression searching ps
      atEnd (.expr e) ps

mutual

/-- The statements that stand in a column, and the lines after them. -/
def readBlock : Nat → Nat → List Line → Except ReadError (List Stmt × List Line)
  | 0, _, _ => .error ⟨.invalid, 0⟩
  | _ + 1, _, [] => .ok ([], [])
  | n + 1, column, l :: ls =>
    match l.halt? with
    | some why => .error ⟨.halt why, l.number⟩
    | none =>
      if l.column < column then .ok ([], l :: ls)
      else if column < l.column then .error ⟨.unexpectedIndent, l.number⟩
      else do
        let (s, ls) ← readStmt n l ls
        let (ss, ls) ← readBlock n column ls
        return (s :: ss, ls)

def readBody : Nat → String → Line → List Line → Except ReadError (List Stmt × List Line)
  | 0, _, _, _ => .error ⟨.invalid, 0⟩
  | _ + 1, word, head, [] => .error ⟨.noBody word head.number, head.lastNumber⟩
  | n + 1, word, head, l :: ls =>
    match l.halt? with
    | some why => .error ⟨.halt why, l.number⟩
    | none =>
      if head.column < l.column then readBlock n l.column (l :: ls)
      else .error ⟨.noBody word head.number, l.number⟩

def readStmt : Nat → Line → List Line → Except ReadError (Stmt × List Line)
  | 0, l, _ => .error ⟨.invalid, l.number⟩
  | n + 1, l, after =>
    match l.after? "if", l.after? "while", l.after? "for", l.after? "try", l.after? "def" with
    | some ps, _, _, _, _ => do
      let e ← settled (readCondition · ps)
      let (body, ls) ← readBody n "if" l after
      let (orelse, ls) ← readElse n l.column true ls
      return (.branch e body orelse, ls)
    | _, some ps, _, _, _ => do
      let e ← settled (readCondition · ps)
      let (body, ls) ← readBody n "while" l after
      let (orelse, ls) ← readElse n l.column false ls
      return (.repeat_ l.number e body orelse, ls)
    | _, _, some ps, _, _ => do
      let (x, e) ← settled (readLoop · ps)
      let (body, ls) ← readBody n "for" l after
      let (orelse, ls) ← readElse n l.column false ls
      return (.each l.number x e body orelse, ls)
    | _, _, _, some ps, _ => do
      needColon () ps
      let (body, ls) ← readBody n "try" l after
      let (handlers, ls) ← readHandlers n l.column ls
      let (orelse, ls) ← if handlers.isEmpty then .ok ([], ls) else readElse n l.column false ls
      match ls with
      | [] =>
        if handlers.isEmpty then
          .error ⟨.noHandler, (after.getLast?.map (·.number)).getD l.number⟩
        else return (.guard l.number body handlers orelse [], [])
      | f :: rest =>
        match if f.column = l.column then f.after? "finally" else none with
        | some ps => do
          needColon () ps
          let (final, ls) ← readBody n "finally" f rest
          return (.guard l.number body handlers orelse final, ls)
        | none =>
          if handlers.isEmpty then .error ⟨.noHandler, f.number⟩
          else return (.guard l.number body handlers orelse [], f :: rest)
    | _, _, _, _, some ps => do
      let (f, params) ← settled (readSignature · ps)
      let (body, ls) ← readBody n "def" l after
      return (.define l.number f params body, ls)
    | none, none, none, none, none => do return (← settled (readSimple · l), after)

/-- The clauses after a body that are taken when it was not, up to the last. -/
def readElse : Nat → Nat → Bool → List Line → Except ReadError (List Stmt × List Line)
  | 0, _, _, _ => .error ⟨.invalid, 0⟩
  | _ + 1, _, _, [] => .ok ([], [])
  | n + 1, column, chained, l :: ls =>
    match if l.column = column && chained then l.after? "elif" else none,
        if l.column = column then l.after? "else" else none with
    | some ps, _ => do
      let e ← settled (readCondition · ps)
      let (body, ls) ← readBody n "elif" l ls
      let (orelse, ls) ← readElse n column true ls
      return ([.branch e body orelse], ls)
    | _, some ps => do
      needColon () ps
      readBody n "else" l ls
    | none, none => .ok ([], l :: ls)

def readHandlers : Nat → Nat → List Line → Except ReadError (List Handler × List Line)
  | 0, _, _ => .error ⟨.invalid, 0⟩
  | _ + 1, _, [] => .ok ([], [])
  | n + 1, column, l :: ls =>
    match if l.column = column then l.after? "except" else none with
    | none => .ok ([], l :: ls)
    | some ps => do
      let kind ← settled (readKind · ps)
      let (body, ls) ← readBody n "except" l ls
      let (hs, ls) ← readHandlers n column ls
      return (.mk l.number kind body :: hs, ls)

end

/-! ## Programs -/

def readLines (ls : List Line) : Except ReadError (List Stmt) := do
  let (ss, rest) ← readBlock (3 * ls.length + 3) 0 ls
  match rest with
  | l :: _ => .error ⟨.invalid, l.number⟩
  | [] => return ss

/-- The statements of pieces. An error on a later line than a bracket that is never closed comes
from the bracket. -/
def Pieces.read (ps : Pieces) : Except ReadError (List Stmt) :=
  match readLines (Line.group [] ps.list), ps.opened with
  | .ok ss, _ => .ok ss
  | .error e, [] => .error e
  | .error e, o :: _ => .error (if o.line < e.line then ⟨.neverClosed o.bracket, o.line⟩ else e)

/-- The statements, if they are in their places. -/
def checkPlaces (ss : List Stmt) : Except ReadError (List Stmt) :=
  match repeatedParamAll? ss, misfitAll? {} ss with
  | some (x, line), _ => .error ⟨.repeatedParam x, line⟩
  | none, some (m, line) => .error ⟨.misfit m, line⟩
  | none, none => .ok ss

theorem isIndentation_of_checkPlaces {ss : List Stmt} {e : ReadError}
    (h : checkPlaces ss = .error e) : e.isIndentation = false := by
  unfold checkPlaces at h
  split at h
  · obtain rfl := Except.error.inj h
    rfl
  · obtain rfl := Except.error.inj h
    rfl
  · cases h

def readProgram (text : String) : Except ReadError (List Stmt) :=
  if text.toList.contains '\x00' then .error ⟨.zeroCharacter, 0⟩
  else
    match scan true 1 0 [] [] text.toList with
    | .error (fault, line) => .error ⟨.lexical fault, line⟩
    | .ok pieces => do checkPlaces (← pieces.read)

end Flowline.Script
