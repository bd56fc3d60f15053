import Flowline.Script.Literal
import Flowline.Text.Name

/-!
# The words of a generated program

A text is cut into names, numbers, texts and signs, each with its place; blanks and comments are
left out. A line ends only where no bracket is open and no text is going on. Some characters cannot
be cut at all, which is a fault of the whole text. A literal that can be cut but has no value is
kept as a faulty one, and a place where cutting halts is kept as well, because they only matter when
they are read.
-/

namespace Flowline.Script

/-! ## Faults -/

inductive LexFault
  | leadingZeros
  | badNumber
  | badCharacter (c : Char)
  /-- A text has no end; the line where that shows. -/
  | openText (line : Nat)
  /-- A text between groups of three quotes has no end; the line where that shows. -/
  | openBlockText (line : Nat)
  | unmatched (closing : Char)
  /-- A bracket does not fit the one it closes, which may stand on an earlier line. -/
  | mismatched (closing opening : Char) (line : Option Nat)
deriving DecidableEq, Repr

/-- The number of a character, with capital hexadecimal digits, at least four of them. -/
def codeText (c : Char) : String :=
  let ds := (Nat.toDigits 16 c.toNat).map Char.toUpper
  "U+" ++ String.ofList (List.replicate (4 - ds.length) '0' ++ ds)

def LexFault.message : LexFault → String
  | leadingZeros =>
    "leading zeros in decimal integer literals are not permitted; " ++
      "use an 0o prefix for octal integers"
  | badNumber => "invalid decimal literal"
  | badCharacter c =>
    if Text.isHidden c then s!"invalid non-printable character {codeText c}"
    else s!"invalid character '{c}' ({codeText c})"
  | openText line => s!"unterminated string literal (detected at line {line})"
  | openBlockText line => s!"unterminated triple-quoted string literal (detected at line {line})"
  | unmatched closing => s!"unmatched '{closing}'"
  | mismatched closing opening line =>
    s!"closing parenthesis '{closing}' does not match opening parenthesis '{opening}'" ++
      match line with
      | some n => s!" on line {n}"
      | none => ""

inductive Halt
  | strayBackslash
  /-- A line is indented by too many levels. -/
  | deepIndent
  /-- A line is indented less than the one before it, but by no level that is open. -/
  | strayDedent
deriving DecidableEq, Repr

inductive LiteralFault
  /-- A whole number has too many digits. -/
  | longNumber (digits : Nat)
  | badEscape (fault : EscapeFault)
deriving DecidableEq, Repr

def LiteralFault.message : LiteralFault → String
  | longNumber digits =>
    tooManyDigits digits ++
      " - Consider hexadecimal for huge integer literals to avoid decimal conversion limits."
  | badEscape fault => fault.message

/-! ## Lexemes -/

inductive Lexeme
  | name (text : String)
  | number (value : Number)
  | text (value : String)
  /-- Bytes, whose value does not matter. -/
  | bytes
  | faulty (fault : LiteralFault)
  | sign (text : String)
  | lineEnd
  | halt (why : Halt)
deriving DecidableEq, Repr

/-- A lexeme with what follows it. Only texts run over several lines. -/
structure Cut where
  lexeme : Lexeme
  /-- How many lines begin within the lexeme. -/
  breaks : Nat := 0
  rest : List Char

def doubleSigns : List String := ["==", "!=", "<=", ">=", "->", ":=", "**", "//"]

/-- The sign at the beginning of a text: two characters that belong together, or one. -/
def cutSign (c : Char) (cs : List Char) : Cut :=
  match cs with
  | d :: ds =>
    if doubleSigns.contains (String.ofList [c, d]) then
      { lexeme := .sign (String.ofList [c, d]), rest := ds }
    else { lexeme := .sign (String.ofList [c]), rest := d :: ds }
  | [] => { lexeme := .sign (String.ofList [c]), rest := [] }

theorem length_cutSign (c : Char) (cs : List Char) : (cutSign c cs).rest.length ≤ cs.length := by
  unfold cutSign
  split
  · split
    · exact Nat.le_succ _
    · exact Nat.le_refl _
  · exact Nat.le_refl _

def Number.lexeme (n : Number) : Lexeme :=
  match n.excess? with
  | some digits => .faulty (.longNumber digits)
  | none => .number n

/-- Whether a number that is followed by the text goes on as a word. -/
def goesOn (cs : List Char) : Bool := cs.head?.any fun c => c.isAlphanum || c = '_'

/-- Whether a number that is followed by the text has more than digits. -/
def hasFraction (cs : List Char) : Bool :=
  cs.head?.any fun c => c = '.' || c = 'e' || c = 'E'

/-- The number that begins with a digit, or with a point before a digit. -/
def cutNumber (c : Char) (cs : List Char) : Except LexFault Cut :=
  match digitRun cs with
  | none => .error .badNumber
  | some (digits, afterDigits) =>
    if c ≠ '.' && hasLeadingZero ((c :: digits).filter Char.isDigit) &&
        !hasFraction afterDigits then
      .error .leadingZeros
    else
      match if c = '.' then some ([], afterDigits) else pointRun afterDigits with
      | none => .error .badNumber
      | some (decimals, afterDecimals) =>
        match exponentRun afterDecimals with
        | none => .error .badNumber
        | some (exponent, rest) =>
          match if goesOn rest then none
              else Number.read? (c :: digits ++ decimals ++ exponent) with
          | none => .error .badNumber
          | some n => .ok { lexeme := n.lexeme, rest }

theorem length_cutNumber {c : Char} {cs : List Char} {k : Cut} (h : cutNumber c cs = .ok k) :
    k.rest.length ≤ cs.length := by
  unfold cutNumber at h
  split at h
  · exact absurd h (by simp)
  · next digits afterDigits hd =>
    have h1 := length_digitRun hd
    split at h
    · exact absurd h (by simp)
    · split at h
      · exact absurd h (by simp)
      · next decimals afterDecimals hp =>
        have h2 : afterDecimals.length ≤ afterDigits.length := by
          split at hp
          · obtain ⟨_, rfl⟩ := Prod.mk.inj (Option.some.inj hp)
            exact Nat.le_refl _
          · exact length_pointRun hp
        split at h
        · exact absurd h (by simp)
        · next exponent rest he =>
          have h3 := length_exponentRun he
          split at h
          · exact absurd h (by simp)
          · obtain rfl := Except.ok.inj h
            exact Nat.le_trans h3 (Nat.le_trans h2 h1)

/-- How the text after a word in front of its quote is meant. -/
structure TextForm where
  raw : Bool := false
  bytes : Bool := false
deriving DecidableEq, Repr

/-- The form that a word in front of a quote stands for. -/
def textForm? (word : List Char) : Option TextForm :=
  let small := String.ofList (word.map Char.toLower)
  if ["u", "f"].contains small then some {}
  else if ["r", "fr", "rf"].contains small then some { raw := true }
  else if ["b", "br", "rb"].contains small then some { bytes := true }
  else none

def textLexeme (form : TextForm) (body : List Char) : Lexeme :=
  if form.bytes then .bytes
  else if form.raw then .text (String.ofList body)
  else
    match decodeText 0 body with
    | .ok cs => .text (String.ofList cs)
    | .error f => .faulty (.badEscape f)

def cutText (line : Nat) (form : TextForm) (quote : Char) (cs : List Char) :
    Except LexFault Cut :=
  if [quote, quote].isPrefixOf cs then
    match textBody [quote, quote, quote] 0 (cs.drop 2) with
    | .ok (body, rest) => .ok ⟨textLexeme form body, body.count '\n', rest⟩
    | .error passed => .error (.openBlockText (line + passed))
  else
    match textBody [quote] 0 cs with
    | .ok (body, rest) => .ok ⟨textLexeme form body, body.count '\n', rest⟩
    | .error passed => .error (.openText (line + passed))

theorem length_cutText {line : Nat} {form : TextForm} {quote : Char} {cs : List Char} {k : Cut}
    (h : cutText line form quote cs = .ok k) : k.rest.length ≤ cs.length := by
  unfold cutText at h
  split at h
  · split at h
    · next body rest hb =>
      obtain rfl := Except.ok.inj h
      have := length_textBody hb
      rw [List.length_drop] at this
      exact Nat.le_trans this (Nat.sub_le _ _)
    · exact absurd h (by simp)
  · split at h
    · next body rest hb =>
      obtain rfl := Except.ok.inj h
      exact length_textBody hb
    · exact absurd h (by simp)

def isQuote (c : Char) : Bool := c = '"' || c = '\''

/-- The character that a name has for a letter, a digit or an underscore of full width. -/
def usualWidth (c : Char) : Char :=
  let d := Char.ofNat (c.toNat - 0xfee0)
  if 0xff00 ≤ c.toNat && c.toNat < 0xff5f && (d.isAlphanum || d = '_') then d else c

def nameLexeme (word : List Char) : Lexeme := .name (String.ofList (word.map usualWidth))

/-- The name that begins with a character, or the text if the name stands for the form of one. -/
def cutWord (line : Nat) (c : Char) (cs : List Char) : Except LexFault Cut :=
  let word := c :: cs.takeWhile Text.isNameRest
  match cs.dropWhile Text.isNameRest with
  | [] => .ok { lexeme := nameLexeme word, rest := [] }
  | q :: rest =>
    match if isQuote q then textForm? word else none with
    | some form => cutText line form q rest
    | none => .ok { lexeme := nameLexeme word, rest := q :: rest }

theorem length_cutWord {line : Nat} {c : Char} {cs : List Char} {k : Cut}
    (h : cutWord line c cs = .ok k) : k.rest.length ≤ cs.length := by
  have hd : (cs.dropWhile Text.isNameRest).length ≤ cs.length :=
    (List.dropWhile_sublist _).length_le
  unfold cutWord at h
  simp only at h
  split at h
  · obtain rfl := Except.ok.inj h
    exact Nat.zero_le _
  · next q rest hr =>
    rw [hr] at hd
    split at h
    · exact Nat.le_trans (length_cutText h) (Nat.le_trans (Nat.le_succ _) hd)
    · obtain rfl := Except.ok.inj h
      exact hd

/-- The lexeme that begins with a character, which is neither blank nor a backslash, on the given
line. -/
def cut (line : Nat) (c : Char) (cs : List Char) : Except LexFault Cut :=
  if Text.isNameStart c then cutWord line c cs
  else if c.isDigit || (c = '.' && cs.head?.any Char.isDigit) then cutNumber c cs
  else if isQuote c then cutText line {} c cs
  else if 0x80 ≤ c.toNat || Text.isHidden c then .error (.badCharacter c)
  else .ok (cutSign c cs)

theorem length_cut {line : Nat} {c : Char} {cs : List Char} {k : Cut}
    (h : cut line c cs = .ok k) : k.rest.length ≤ cs.length := by
  unfold cut at h
  split at h
  · exact length_cutWord h
  · split at h
    · exact length_cutNumber h
    · split at h
      · exact length_cutText h
      · split at h
        · exact absurd h (by simp)
        · obtain rfl := Except.ok.inj h
          exact length_cutSign _ _

/-! ## Brackets -/

structure Opening where
  bracket : Char
  line : Nat
deriving DecidableEq, Repr

def openingOf? (closing : Char) : Option Char :=
  if closing = ')' then some '('
  else if closing = ']' then some '['
  else if closing = '\x7d' then some '\x7b'
  else none

/-- The brackets that are open after a character, innermost first. -/
def bracketsAfter (opened : List Opening) (line : Nat) (c : Char) :
    Except LexFault (List Opening) :=
  if c = '(' || c = '[' || c = '\x7b' then .ok (⟨c, line⟩ :: opened)
  else
    match openingOf? c, opened with
    | none, opened => .ok opened
    | some _, [] => .error (.unmatched c)
    | some b, o :: rest =>
      if b = o.bracket then .ok rest
      else .error (.mismatched c o.bracket (if o.line = line then none else some o.line))

def Lexeme.brackets (opened : List Opening) (line : Nat) : Lexeme → Except LexFault (List Opening)
  | .sign s =>
    match s.toList with
    | [c] => bracketsAfter opened line c
    | _ => .ok opened
  | _ => .ok opened

/-! ## Pieces -/

structure Piece where
  lexeme : Lexeme
  line : Nat
  /-- How many blanks stand before it. -/
  blanks : Nat
  /-- How many brackets are open after it. -/
  depth : Nat
deriving DecidableEq, Repr

/-- The pieces of a text, and the brackets that are still open at its end. -/
structure Pieces where
  list : List Piece
  opened : List Opening
deriving Repr

def Pieces.add (p : Piece) (ps : Pieces) : Pieces := { ps with list := p :: ps.list }

/-- How many levels of indentation are too many, with the outermost. -/
def levelLimit : Nat := 100

/-- The levels of indentation that are open from a line on that begins in the given column. Each level
is told by its column, innermost first; the outermost, of column 0, is left out. -/
def levelsAt (column : Nat) (levels : List Nat) : Except Halt (List Nat) :=
  if levels.headD 0 < column then
    if levels.length + 1 < levelLimit then .ok (column :: levels) else .error .deepIndent
  else
    let outer := levels.dropWhile (column < ·)
    if outer.headD 0 = column then .ok outer else .error .strayDedent

/-- The end of a text of which `line` is the present line. Within brackets, the last line ends on a
line of its own. -/
def Pieces.ending (line : Nat) (opened : List Opening) : Pieces :=
  ⟨[⟨.lineEnd, if opened.isEmpty then line else line + 1, 0, opened.length⟩], opened⟩

def Pieces.halted (why : Halt) (line blanks : Nat) (opened : List Opening) : Pieces :=
  (Pieces.ending line opened).add ⟨.halt why, line, blanks, opened.length⟩

/-- Cuts a text of which `line` is the present line, after `blanks` blanks; `fresh` says that they
begin the line. The levels are those of the line before, or of the present one within it. -/
def scan (fresh : Bool) (line blanks : Nat) (levels : List Nat) (opened : List Opening)
    (cs : List Char) : Except (LexFault × Nat) Pieces :=
  match cs with
  | [] => .ok (.ending line opened)
  | c :: rest =>
    if c = '\n' then
      if opened.isEmpty then
        (scan true (line + 1) 0 levels opened rest).map (Pieces.add ⟨.lineEnd, line, blanks, 0⟩)
      else scan false (line + 1) 0 levels opened rest
    else if c = ' ' || c = '\t' || c = '\x0c' then scan fresh line (blanks + 1) levels opened rest
    else if c = '#' then scan fresh line blanks levels opened (rest.dropWhile (· != '\n'))
    else if c = '\\' then .ok (.halted .strayBackslash line blanks opened)
    else
      -- only the first lexeme of a line is held against the levels
      match if fresh then levelsAt blanks levels else .ok levels with
      | .error why => .ok (.halted why line blanks opened)
      | .ok levels =>
        match _h : cut line c rest with
        | .error f => .error (f, line)
        | .ok k =>
          match k.lexeme.brackets opened line with
          | .error f => .error (f, line)
          | .ok now =>
            (scan false (line + k.breaks) 0 levels now k.rest).map
              (Pieces.add ⟨k.lexeme, line, blanks, now.length⟩)
termination_by cs.length
decreasing_by
  · simp
  · simp
  · simp
  · exact Nat.lt_succ_of_le (List.dropWhile_sublist _).length_le
  · exact Nat.lt_succ_of_le (length_cut _h)

end Flowline.Script
