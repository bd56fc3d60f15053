import Mathlib.Data.List.TakeWhile
import Mathlib.Tactic.Lemma
import Flowline.Proofs.Digits
import Flowline.Script.Lexeme

/-!
Cutting a text piece by piece.

`scan` goes through a text from left to right. For each kind of word that a program is made of (a
name, the digits of a number, a sign) there is a lemma that takes it off the front of a text, if
what follows cannot belong to it, and leaves the scan of the rest. For a number in any spelling and
for a text between quotes, what is taken off and what is left make up the text.
-/

namespace Flowline.Script

open Text

def ahead (ps : List Piece) (r : Except (LexFault × Nat) Pieces) : Except (LexFault × Nat) Pieces :=
  r.map fun qs => { qs with list := ps ++ qs.list }

lemma ahead_ok (ps qs : List Piece) (opened : List Opening) :
    ahead ps (.ok ⟨qs, opened⟩) = .ok ⟨ps ++ qs, opened⟩ := rfl

lemma ahead_ahead (ps qs : List Piece) (r : Except (LexFault × Nat) Pieces) :
    ahead ps (ahead qs r) = ahead (ps ++ qs) r := by
  rcases r with e | ⟨rs, opened⟩
  · rfl
  · simp [ahead, Except.map]

/-- The text ends a word before it: what follows is a blank, a bracket, a colon or a new line. -/
def Parted (rest : List Char) : Prop := ∀ c ∈ rest.head?, c ∈ [' ', '\n', '(', ')', ':']

lemma parted_nil : Parted [] := by simp [Parted]

lemma parted_cons {c : Char} (cs : List Char) (h : c ∈ [' ', '\n', '(', ')', ':']) :
    Parted (c :: cs) := by
  simpa [Parted] using h

/-! ### One step -/

variable {fresh : Bool} {line blanks : Nat} {levels : List Nat} {opened : List Opening}

lemma scan_nil : scan fresh line blanks levels [] [] = .ok ⟨[⟨.lineEnd, line, 0, 0⟩], []⟩ := by
  rw [scan]
  rfl

lemma scan_space (cs : List Char) :
    scan fresh line blanks levels opened (' ' :: cs) =
      scan fresh line (blanks + 1) levels opened cs := by
  rw [scan]
  simp

lemma scan_newline (cs : List Char) :
    scan fresh line blanks levels [] ('\n' :: cs) =
      ahead [⟨.lineEnd, line, blanks, 0⟩] (scan true (line + 1) 0 levels [] cs) := by
  rw [scan]
  rfl

def gapChars : List Char := ['\n', ' ', '\t', '\x0c', '#', '\\']

/-- The blanks before a lexeme are not the beginning of a line, or begin it on the level before. -/
def Aligned (fresh : Bool) (blanks : Nat) (levels : List Nat) : Prop :=
  fresh = false ∨ levels.headD 0 = blanks

lemma levelsAt_headD (levels : List Nat) : levelsAt (levels.headD 0) levels = .ok levels := by
  have hdrop : levels.dropWhile (levels.headD 0 < ·) = levels := by cases levels <;> simp
  simp only [levelsAt, Nat.lt_irrefl, if_false, hdrop, if_true]

lemma Aligned.levelsAt_eq (h : Aligned fresh blanks levels) :
    (if fresh then levelsAt blanks levels else .ok levels) = .ok levels := by
  rcases h with rfl | rfl
  · rfl
  · rw [levelsAt_headD, ite_self]

lemma scan_halted {c : Char} {cs : List Char} {why : Halt} (hc : c ∉ gapChars)
    (hlevels : (if fresh then levelsAt blanks levels else .ok levels) = .error why) :
    scan fresh line blanks levels opened (c :: cs) = .ok (.halted why line blanks opened) := by
  simp only [gapChars, List.mem_cons, List.not_mem_nil, or_false, not_or] at hc
  obtain ⟨hfeed, hblank, htab, hform, hhash, hslash⟩ := hc
  rw [scan]
  simp only [hfeed, hblank, htab, hform, hhash, hslash, hlevels, if_false, Bool.or_self,
    Bool.false_eq_true, decide_false]

/-- What is done where a lexeme begins: it is cut off, the open brackets are settled, and the rest
is cut with both. -/
lemma scan_lexeme {c : Char} {cs : List Char} {current : List Nat} (hc : c ∉ gapChars)
    (hlevels : (if fresh then levelsAt blanks levels else .ok levels) = .ok current) :
    scan fresh line blanks levels opened (c :: cs) =
      ((cut line c cs).mapError (·, line)).bind fun k =>
        ((k.lexeme.brackets opened line).mapError (·, line)).bind fun now =>
          ahead [⟨k.lexeme, line, blanks, now.length⟩]
            (scan false (line + k.breaks) 0 current now k.rest) := by
  simp only [gapChars, List.mem_cons, List.not_mem_nil, or_false, not_or] at hc
  obtain ⟨hfeed, hblank, htab, hform, hhash, hslash⟩ := hc
  rw [scan]
  simp only [hfeed, hblank, htab, hform, hhash, hslash, hlevels, if_false, Bool.or_self,
    Bool.false_eq_true, decide_false]
  split
  · next f hf =>
    rw [hf]
    rfl
  · next k hk =>
    simp only [hk, Except.mapError, Except.bind]
    cases k.lexeme.brackets opened line <;> rfl

/-- Takes the lexeme off a text that `cut` gives there. -/
lemma scan_cut_of_levels {c : Char} {cs : List Char} {k : Cut} {now : List Opening}
    {current : List Nat} (hc : c ∉ gapChars)
    (hlevels : (if fresh then levelsAt blanks levels else .ok levels) = .ok current)
    (hcut : cut line c cs = .ok k) (hnow : k.lexeme.brackets opened line = .ok now) :
    scan fresh line blanks levels opened (c :: cs) =
      ahead [⟨k.lexeme, line, blanks, now.length⟩]
        (scan false (line + k.breaks) 0 current now k.rest) := by
  rw [scan_lexeme hc hlevels, hcut]
  simp only [Except.mapError, Except.bind, hnow]

lemma scan_cut {c : Char} {cs : List Char} {k : Cut} {now : List Opening} (hc : c ∉ gapChars)
    (haligned : Aligned fresh blanks levels) (hcut : cut line c cs = .ok k)
    (hnow : k.lexeme.brackets opened line = .ok now) :
    scan fresh line blanks levels opened (c :: cs) =
      ahead [⟨k.lexeme, line, blanks, now.length⟩]
        (scan false (line + k.breaks) 0 levels now k.rest) :=
  scan_cut_of_levels hc haligned.levelsAt_eq hcut hnow

/-! ### Names -/

lemma isNameRest_of_parted {c : Char} {rest : List Char} (h : Parted (c :: rest)) :
    isNameRest c = false ∧ isQuote c = false := by
  have hall : ∀ d ∈ [' ', '\n', '(', ')', ':'], isNameRest d = false ∧ isQuote d = false :=
    forall_mem_of_all (by decide +kernel)
  exact hall c (h c rfl)

lemma dropWhile_parted {rest : List Char} (h : Parted rest) : rest.dropWhile isNameRest = rest := by
  cases rest with
  | nil => rfl
  | cons c rest => rw [List.dropWhile_cons_of_neg (by simp [isNameRest_of_parted h])]

lemma takeWhile_parted {rest : List Char} (h : Parted rest) : rest.takeWhile isNameRest = [] := by
  cases rest with
  | nil => rfl
  | cons c rest => rw [List.takeWhile_cons_of_neg (by simp [isNameRest_of_parted h])]

lemma usualWidth_of_ascii {c : Char} (h : c.toNat < 128) : usualWidth c = c := by
  simp only [usualWidth]
  rw [if_neg]
  simp only [Bool.and_eq_true, decide_eq_true_eq, not_and]
  omega

lemma cutWord_name {c : Char} {cs rest : List Char} (hrest : ∀ d ∈ cs, isNameRest d = true)
    (hascii : ∀ d ∈ c :: cs, d.toNat < 128) (hparted : Parted rest) :
    cutWord line c (cs ++ rest) = .ok { lexeme := .name (String.ofList (c :: cs)), rest } := by
  have htake : (cs ++ rest).takeWhile isNameRest = cs := by
    rw [List.takeWhile_append_of_pos hrest, takeWhile_parted hparted, List.append_nil]
  have hdrop : (cs ++ rest).dropWhile isNameRest = rest := by
    rw [List.dropWhile_append_of_pos hrest, dropWhile_parted hparted]
  have hname : nameLexeme (c :: cs) = .name (String.ofList (c :: cs)) := by
    have hmap : (c :: cs).map usualWidth = c :: cs :=
      (List.map_congr_left fun d hd => usualWidth_of_ascii (hascii d hd)).trans (List.map_id _)
    rw [nameLexeme, hmap]
  simp only [cutWord, htake, hdrop, hname]
  cases rest with
  | nil => rfl
  | cons q rest => simp [(isNameRest_of_parted hparted).2]

/-- Takes a name off a text. -/
lemma scan_name_of_levels {c : Char} {cs rest : List Char} {current : List Nat}
    (hstart : isNameStart c = true) (hrest : ∀ d ∈ cs, isNameRest d = true)
    (hascii : ∀ d ∈ c :: cs, d.toNat < 128)
    (hlevels : (if fresh then levelsAt blanks levels else .ok levels) = .ok current)
    (hparted : Parted rest) :
    scan fresh line blanks levels opened (c :: cs ++ rest) =
      ahead [⟨.name (String.ofList (c :: cs)), line, blanks, opened.length⟩]
        (scan false line 0 current opened rest) := by
  have hgap : c ∉ gapChars := by
    have hall : ∀ d ∈ gapChars, isNameStart d = false := forall_mem_of_all (by decide +kernel)
    intro hc
    rw [hall c hc] at hstart
    cases hstart
  have hcut : cut line c (cs ++ rest) =
      .ok { lexeme := .name (String.ofList (c :: cs)), rest } := by
    rw [cut, if_pos hstart, cutWord_name hrest hascii hparted]
  exact scan_cut_of_levels hgap hlevels hcut rfl

lemma scan_name {c : Char} {cs rest : List Char} (hstart : isNameStart c = true)
    (hrest : ∀ d ∈ cs, isNameRest d = true) (hascii : ∀ d ∈ c :: cs, d.toNat < 128)
    (haligned : Aligned fresh blanks levels) (hparted : Parted rest) :
    scan fresh line blanks levels opened (c :: cs ++ rest) =
      ahead [⟨.name (String.ofList (c :: cs)), line, blanks, opened.length⟩]
        (scan false line 0 levels opened rest) :=
  scan_name_of_levels hstart hrest hascii haligned.levelsAt_eq hparted

/-! ### Numbers -/

lemma digitRun_append {ds rest : List Char} (h : ∀ d ∈ ds, d.isDigit = true)
    (hparted : Parted rest) : digitRun (ds ++ rest) = some (ds, rest) := by
  induction ds with
  | nil =>
    cases rest with
    | nil => rfl
    | cons c rest =>
      have hall : ∀ d ∈ [' ', '\n', '(', ')', ':'], d.isDigit = false ∧ d ≠ '_' :=
        forall_mem_of_all (by decide)
      obtain ⟨hdigit, hunder⟩ := hall c (hparted c rfl)
      simp [digitRun, hdigit, hunder]
  | cons d ds ih =>
    rw [List.cons_append, digitRun, ih fun e he => h e (List.mem_cons_of_mem d he)]
    simp [h d]

lemma runs_parted {rest : List Char} (h : Parted rest) :
    pointRun rest = some ([], rest) ∧ exponentRun rest = some ([], rest) ∧ goesOn rest = false := by
  cases rest with
  | nil => exact ⟨rfl, rfl, rfl⟩
  | cons c rest =>
    have hall : ∀ d ∈ [' ', '\n', '(', ')', ':'],
        d ≠ '.' ∧ d ≠ 'e' ∧ d ≠ 'E' ∧ d.isAlphanum = false ∧ d ≠ '_' :=
      forall_mem_of_all (by decide)
    obtain ⟨hpoint, he, hE, halnum, hunder⟩ := hall c (h c rfl)
    simp [pointRun, exponentRun, goesOn, hpoint, he, hE, halnum, hunder]

/-- The lexeme of a whole number. It is not unfolded by unification, which would compare the number
with the greatest one that has a value. -/
@[irreducible] def wholeLexeme (n : Nat) : Lexeme := (Number.whole n).lexeme

/-- A whole number with too many digits is a faulty lexeme. -/
lemma wholeLexeme_eq (n : Nat) :
    wholeLexeme n =
      if (digits n).length ≤ digitLimit then .number (.whole n)
      else .faulty (.longNumber (digits n).length) := by
  have hiff := length_digits_le_iff (n := n) (k := digitLimit) (by decide)
  unfold wholeLexeme Number.lexeme Number.excess?
  simp only [hiff]
  split
  · next h => split at h <;> simp_all [digits]
  · next h => split at h <;> simp_all

lemma wholeLexeme_ne_lineEnd (n : Nat) : wholeLexeme n ≠ .lineEnd := by
  rw [wholeLexeme_eq]
  split <;> simp

lemma wholeLexeme_ne_sign (n : Nat) (t : String) : wholeLexeme n ≠ .sign t := by
  rw [wholeLexeme_eq]
  split <;> simp

lemma brackets_wholeLexeme (n : Nat) (opened : List Opening) (line : Nat) :
    (wholeLexeme n).brackets opened line = .ok opened := by
  rw [wholeLexeme_eq]
  split <;> rfl

/-- Takes the digits of a number off a text. -/
lemma scan_digits (n : Nat) {rest : List Char} (haligned : Aligned fresh blanks levels)
    (hparted : Parted rest) :
    scan fresh line blanks levels opened (digits n ++ rest) =
      ahead [⟨wholeLexeme n, line, blanks, opened.length⟩]
        (scan false line 0 levels opened rest) := by
  have hzero := hasLeadingZero_digits n
  have hread := Number.read?_digits n
  have hfilter : (digits n).filter Char.isDigit = digits n :=
    List.filter_eq_self.mpr fun c hc => isDigit_of_mem_digits hc
  obtain ⟨c, cs, hn, hc, hcs⟩ := digits_eq_cons n
  rw [hn] at hzero hread hfilter ⊢
  have hstart : isNameStart c = false := by
    refine ascii_forall (P := fun c => c.isDigit = true → isNameStart c = false) ?_
      (ascii_of_isDigit hc) hc
    decide +kernel
  have hpoint : c ≠ '.' := by rintro rfl; cases hc
  have hgap : c ∉ gapChars := by
    have hall : ∀ d ∈ gapChars, d.isDigit = false := forall_mem_of_all (by decide)
    intro hm
    rw [hall c hm] at hc
    cases hc
  obtain ⟨hnopoint, hnoexponent, hends⟩ := runs_parted hparted
  have hcut : cut line c (cs ++ rest) = .ok { lexeme := wholeLexeme n, rest } := by
    have hnumber : cutNumber c (cs ++ rest) = .ok { lexeme := wholeLexeme n, rest } := by
      unfold wholeLexeme
      simp only [cutNumber, digitRun_append hcs hparted, hfilter, hzero, hpoint, hnopoint,
        hnoexponent, hends, hread, List.append_nil, Bool.and_false, Bool.false_and, if_false,
        Bool.false_eq_true]
    simp [cut, hstart, hc, hnumber]
  exact scan_cut hgap haligned hcut (brackets_wholeLexeme n opened line)

/-! ### Signs -/

def plainSigns : List Char := ['=', '+', '-', '*', '(', ')', ':']

/-- The sign makes no sign of two characters with the text that follows it. -/
def StandsAlone (c : Char) (rest : List Char) : Prop :=
  ∀ d ∈ rest.head?, [c, d] ∉ doubleSigns.map String.toList

/-- Takes a sign off a text. -/
lemma scan_sign {c : Char} {rest : List Char} {now : List Opening} (hc : c ∈ plainSigns)
    (halone : StandsAlone c rest)
    (hnow : bracketsAfter opened line c = .ok now) (haligned : Aligned fresh blanks levels) :
    scan fresh line blanks levels opened (c :: rest) =
      ahead [⟨.sign (String.ofList [c]), line, blanks, now.length⟩]
        (scan false line 0 levels now rest) := by
  have hall : ∀ d ∈ plainSigns, d ∉ gapChars ∧ isNameStart d = false ∧ d.isDigit = false ∧
      d ≠ '.' ∧ isQuote d = false ∧ ¬ 0x80 ≤ d.toNat ∧ isHidden d = false :=
    forall_mem_of_all (by decide +kernel)
  obtain ⟨hgap, hstart, hdigit, hpoint, hquote, hwide, hhidden⟩ := hall c hc
  have hsign : cutSign c rest = { lexeme := .sign (String.ofList [c]), rest } := by
    cases rest with
    | nil => rfl
    | cons d rest =>
      have hd : doubleSigns.contains (String.ofList [c, d]) = false := by
        rw [List.contains_eq_mem, decide_eq_false_iff_not]
        intro hm
        exact halone d rfl (List.mem_map.mpr ⟨_, hm, String.toList_ofList⟩)
      simp only [cutSign, hd, Bool.false_eq_true, if_false]
  have hcut : cut line c rest = .ok { lexeme := .sign (String.ofList [c]), rest } := by
    simp [cut, hstart, hdigit, hpoint, hquote, hwide, hhidden, hsign]
  have hbrackets : (Lexeme.sign (String.ofList [c])).brackets opened line = .ok now := by
    simp [Lexeme.brackets, hnow]
  exact scan_cut hgap haligned hcut hbrackets

/-! ### What a number takes off -/

lemma digitRun_parts {cs : List Char} {r : List Char × List Char} (h : digitRun cs = some r) :
    r.1 ++ r.2 = cs := by
  induction cs generalizing r with
  | nil =>
    obtain rfl := Option.some.inj h
    rfl
  | cons c cs ih =>
    rw [digitRun] at h
    split_ifs at h
    · obtain ⟨t, ht, rfl⟩ := Option.map_eq_some_iff.mp h
      simp [ih ht]
    · obtain rfl := Option.some.inj h
      rfl

lemma pointRun_parts {cs : List Char} {r : List Char × List Char} (h : pointRun cs = some r) :
    r.1 ++ r.2 = cs := by
  unfold pointRun at h
  split at h
  · split at h
    · obtain ⟨t, ht, rfl⟩ := Option.map_eq_some_iff.mp h
      simp [digitRun_parts ht]
    · obtain rfl := Option.some.inj h
      rfl
  · obtain rfl := Option.some.inj h
    rfl

lemma exponentRun_parts {cs : List Char} {r : List Char × List Char}
    (h : exponentRun cs = some r) : r.1 ++ r.2 = cs := by
  unfold exponentRun at h
  split at h
  · next c ds =>
    split at h
    · simp only at h
      split at h
      · obtain ⟨t, ht, rfl⟩ := Option.map_eq_some_iff.mp h
        have hrest := digitRun_parts ht
        have hsign : (ds.take 1).filter (fun d => d = '+' || d = '-') ++
            ds.drop ((ds.take 1).filter fun d => d = '+' || d = '-').length = ds := by
          cases ds with
          | nil => rfl
          | cons d ds =>
            by_cases hd : (d = '+' || d = '-') = true
            · simp [hd]
            · simp [hd]
        simp only [List.cons_append, List.append_assoc, hrest, hsign]
      · cases h
    · obtain rfl := Option.some.inj h
      rfl
  · obtain rfl := Option.some.inj h
    rfl

/-- A number that is cut off is read from the characters that are gone. -/
lemma exists_read?_of_cutNumber {c : Char} {cs : List Char} {k : Cut} (h : cutNumber c cs = .ok k) :
    ∃ text n, cs = text ++ k.rest ∧ Number.read? (c :: text) = some n ∧ k.lexeme = n.lexeme ∧
      k.breaks = 0 := by
  unfold cutNumber at h
  split at h
  · cases h
  · next digits afterDigits hdigits =>
    split at h
    · cases h
    · split at h
      · cases h
      · next decimals afterDecimals hpoint =>
        have hdecimals : decimals ++ afterDecimals = afterDigits := by
          split at hpoint
          · obtain ⟨rfl, rfl⟩ := Prod.mk.inj (Option.some.inj hpoint)
            rfl
          · exact pointRun_parts hpoint
        split at h
        · cases h
        · next exponent rest hexponent =>
          split at h
          · cases h
          · next n hn =>
            obtain rfl := Except.ok.inj h
            refine ⟨digits ++ decimals ++ exponent, n, ?_, ?_, rfl, rfl⟩
            · rw [← digitRun_parts hdigits, ← hdecimals, ← exponentRun_parts hexponent]
              simp only [List.append_assoc]
            · split at hn
              · cases hn
              · simpa only [List.append_assoc, List.cons_append] using hn

/-! ### What a text takes off -/

lemma textBody_split {ending cs body rest : List Char} {passed : Nat}
    (h : textBody ending passed cs = .ok (body, rest)) : cs = body ++ ending ++ rest := by
  fun_induction textBody ending passed cs generalizing body rest with
  | case1 => cases h
  | case2 passed c cs hend =>
    obtain ⟨rfl, rfl⟩ := Prod.mk.inj (Except.ok.inj h)
    have := List.prefix_iff_eq_append.mp (List.isPrefixOf_iff_prefix.mp hend)
    simpa using this.symm
  | case3 => cases h
  | case4 passed cs _ _ ih =>
    obtain ⟨⟨body', rest'⟩, hr, heq⟩ := map_eq_ok h
    obtain ⟨rfl, rfl⟩ := Prod.mk.inj heq
    rw [ih hr, List.cons_append, List.cons_append]
  | case5 => cases h
  | case6 passed d ds _ _ ih =>
    obtain ⟨⟨body', rest'⟩, hr, heq⟩ := map_eq_ok h
    obtain ⟨rfl, rfl⟩ := Prod.mk.inj heq
    simp only [ih hr, List.cons_append]
  | case7 passed c cs _ _ _ ih =>
    obtain ⟨⟨body', rest'⟩, hr, heq⟩ := map_eq_ok h
    obtain ⟨rfl, rfl⟩ := Prod.mk.inj heq
    rw [ih hr, List.cons_append, List.cons_append]

end Flowline.Script
