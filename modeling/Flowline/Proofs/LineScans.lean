import Mathlib.Data.List.Chain
import Mathlib.Tactic.Lemma
import Flowline.Proofs.NumberGrammar
import Flowline.Script.Read

/-!
Cutting a text line by line.

A line is cut the same way by itself and with other lines after it, unless it leaves a text or a
bracket open: then the next line does not begin where it seems to. So a text of lines that leave
nothing open is cut into the pieces of its lines, up to a place where cutting halts.
-/

namespace Flowline.Script

open Text

def AtBreak (more : List Char) : Prop := ∀ c ∈ more.head?, c = '\n'

lemma AtBreak.eq {more : List Char} (h : AtBreak more) :
    more = [] ∨ ∃ rest, more = '\n' :: rest := by
  rcases more with _ | ⟨c, rest⟩
  · exact .inl rfl
  · obtain rfl : c = '\n' := h c rfl
    exact .inr ⟨rest, rfl⟩

lemma atBreak_nil : AtBreak [] := by simp [AtBreak]

lemma atBreak_newline (rest : List Char) : AtBreak ('\n' :: rest) := by simp [AtBreak]

def Cut.onto (more : List Char) (k : Cut) : Cut := { k with rest := k.rest ++ more }

section

variable {more : List Char}

lemma any_head?_append {p : Char → Bool} (hp : p '\n' = false) (hmore : AtBreak more)
    (cs : List Char) : (cs ++ more).head?.any p = cs.head?.any p := by
  rcases cs with _ | ⟨c, cs⟩
  · rcases hmore.eq with rfl | ⟨rest, rfl⟩
    · rfl
    · simpa using hp
  · rfl

/-! ### Numbers -/

lemma digitRun_append_atBreak (hmore : AtBreak more) (cs : List Char) :
    digitRun (cs ++ more) = (digitRun cs).map fun r => (r.1, r.2 ++ more) := by
  induction cs with
  | nil =>
    rcases hmore.eq with rfl | ⟨rest, rfl⟩
    · rfl
    · simp [digitRun]
  | cons c cs ih =>
    have hdigit : (cs ++ more).head?.any Char.isDigit = cs.head?.any Char.isDigit :=
      any_head?_append (by decide) hmore cs
    rw [List.cons_append, digitRun, digitRun, hdigit, ih]
    split_ifs
    · rw [Option.map_map, Option.map_map]
      rfl
    · rfl
    · rfl

lemma pointRun_append (hmore : AtBreak more) (cs : List Char) :
    pointRun (cs ++ more) = (pointRun cs).map fun r => (r.1, r.2 ++ more) := by
  rcases cs with _ | ⟨c, cs⟩
  · rcases hmore.eq with rfl | ⟨rest, rfl⟩ <;> rfl
  · by_cases hc : c = '.'
    · subst hc
      have hdigit : (cs ++ more).head?.any Char.isDigit = cs.head?.any Char.isDigit :=
        any_head?_append (by decide) hmore cs
      simp only [List.cons_append, pointRun, hdigit, digitRun_append_atBreak hmore]
      split_ifs
      · rw [Option.map_map, Option.map_map]
        rfl
      · rfl
    · simp [pointRun, hc]

lemma exponentRun_append (hmore : AtBreak more) (cs : List Char) :
    exponentRun (cs ++ more) = (exponentRun cs).map fun r => (r.1, r.2 ++ more) := by
  rcases cs with _ | ⟨c, cs⟩
  · rcases hmore.eq with rfl | ⟨rest, rfl⟩ <;> simp [exponentRun]
  · have hsign : ((cs ++ more).take 1).filter (fun d => d = '+' || d = '-') =
        (cs.take 1).filter fun d => d = '+' || d = '-' := by
      rcases cs with _ | ⟨d, cs⟩
      · rcases hmore.eq with rfl | ⟨rest, rfl⟩ <;> simp
      · simp
    have hlength : ((cs.take 1).filter fun d => d = '+' || d = '-').length ≤ cs.length :=
      (List.length_filter_le _ _).trans (List.length_take_le' _ _)
    simp only [List.cons_append, exponentRun, hsign, List.drop_append_of_le_length hlength]
    generalize ((cs.take 1).filter fun d => d = '+' || d = '-') = sign
    have hdigit : (cs.drop sign.length ++ more).head?.any Char.isDigit =
        (cs.drop sign.length).head?.any Char.isDigit := any_head?_append (by decide) hmore _
    rw [hdigit, digitRun_append_atBreak hmore]
    split_ifs
    · rw [Option.map_map, Option.map_map]
      rfl
    · rfl
    · rfl

lemma cutNumber_append (hmore : AtBreak more) (c : Char) (cs : List Char) :
    cutNumber c (cs ++ more) = (cutNumber c cs).map (Cut.onto more) := by
  have hfraction (cs : List Char) : hasFraction (cs ++ more) = hasFraction cs :=
    any_head?_append (by decide) hmore cs
  have hgoes (cs : List Char) : goesOn (cs ++ more) = goesOn cs :=
    any_head?_append (by decide) hmore cs
  rw [cutNumber, cutNumber, digitRun_append_atBreak hmore]
  rcases digitRun cs with _ | ⟨digits, afterDigits⟩
  · rfl
  simp only [Option.map_some, hfraction]
  split_ifs with hzero hpoint
  · rfl
  · simp only [exponentRun_append hmore]
    rcases exponentRun afterDigits with _ | ⟨exponent, rest⟩
    · rfl
    simp only [Option.map_some, hgoes]
    split <;> rfl
  · rw [pointRun_append hmore]
    rcases pointRun afterDigits with _ | ⟨decimals, afterDecimals⟩
    · rfl
    simp only [Option.map_some, exponentRun_append hmore]
    rcases exponentRun afterDecimals with _ | ⟨exponent, rest⟩
    · rfl
    simp only [Option.map_some, hgoes]
    split <;> rfl

/-! ### Texts -/

lemma length_ending_le {ending cs : List Char} {passed : Nat} {r : List Char × List Char}
    (h : textBody ending passed cs = .ok r) : ending.length ≤ cs.length := by
  fun_induction textBody ending passed cs generalizing r with
  | case1 => cases h
  | case2 passed c cs hend => exact (List.isPrefixOf_iff_prefix.mp hend).length_le
  | case3 => cases h
  | case4 =>
    rename_i ih
    obtain ⟨s, hs, -⟩ := map_eq_ok h
    exact Nat.le_succ_of_le (ih hs)
  | case5 => cases h
  | case6 =>
    rename_i ih
    obtain ⟨s, hs, -⟩ := map_eq_ok h
    exact Nat.le_succ_of_le (Nat.le_succ_of_le (ih hs))
  | case7 =>
    rename_i ih
    obtain ⟨s, hs, -⟩ := map_eq_ok h
    exact Nat.le_succ_of_le (ih hs)

lemma isPrefixOf_append_of_le {ending cs : List Char} (h : ending.length ≤ cs.length)
    (more : List Char) : ending.isPrefixOf (cs ++ more) = ending.isPrefixOf cs := by
  rw [Bool.eq_iff_iff, List.isPrefixOf_iff_prefix, List.isPrefixOf_iff_prefix]
  exact ⟨fun hp => List.prefix_of_prefix_length_le hp (List.prefix_append cs more) h,
    fun hp => hp.trans (List.prefix_append cs more)⟩

/-- A text that ends does so whatever follows. -/
lemma textBody_append {ending cs : List Char} {passed : Nat} {r : List Char × List Char}
    (h : textBody ending passed cs = .ok r) (more : List Char) :
    textBody ending passed (cs ++ more) = .ok (r.1, r.2 ++ more) := by
  -- the ending lies within the text, so whether it stands at a place is seen without what follows
  have hle := length_ending_le h
  have hends := isPrefixOf_append_of_le hle more
  fun_induction textBody ending passed cs generalizing r with
  | case1 => cases h
  | case2 passed c cs hend =>
    obtain rfl := Except.ok.inj h
    rw [List.cons_append] at hends
    rw [List.cons_append, textBody.eq_def]
    simp only [hends, hend, if_true]
    rw [← List.cons_append, List.drop_append_of_le_length hle]
  | case3 => cases h
  | case4 passed cs hlong hend ih =>
    obtain ⟨s, hs, rfl⟩ := map_eq_ok h
    have hle := length_ending_le hs
    rw [List.cons_append] at hends
    rw [List.cons_append, textBody.eq_def]
    simp only [hends, hend, hlong, if_true, if_false,
      ih hs hle (isPrefixOf_append_of_le hle more)]
    rfl
  | case5 => cases h
  | case6 passed d ds hfeed hend ih =>
    obtain ⟨s, hs, rfl⟩ := map_eq_ok h
    have hle := length_ending_le hs
    rw [List.cons_append, List.cons_append] at hends
    rw [List.cons_append, List.cons_append, textBody.eq_def]
    simp only [hends, hend, hfeed, if_true, if_false,
      ih hs hle (isPrefixOf_append_of_le hle more)]
    rfl
  | case7 passed c cs hend hfeed hslash ih =>
    obtain ⟨s, hs, rfl⟩ := map_eq_ok h
    have hle := length_ending_le hs
    rw [List.cons_append] at hends
    rw [List.cons_append, textBody.eq_def]
    simp only [hends, hend, hfeed, hslash, if_false,
      ih hs hle (isPrefixOf_append_of_le hle more)]
    rfl

lemma isQuote_newline : isQuote '\n' = false := by decide

/-- Whether three quotes begin a text does not depend on what follows the line. -/
lemma isPrefixOf_pair_append {quote : Char} (hquote : isQuote quote = true) (hmore : AtBreak more)
    (cs : List Char) : [quote, quote].isPrefixOf (cs ++ more) = [quote, quote].isPrefixOf cs := by
  have hne : quote ≠ '\n' := by
    rintro rfl
    simp [isQuote_newline] at hquote
  rcases hmore.eq with rfl | ⟨rest, rfl⟩
  · rw [List.append_nil]
  · rcases cs with _ | ⟨a, _ | ⟨b, cs⟩⟩ <;> simp [List.isPrefixOf, hne]

def LexFault.isOpen : LexFault → Bool
  | .openText _ | .openBlockText _ => true
  | _ => false

lemma cutText_append {line : Nat} {form : TextForm} {quote : Char} {cs : List Char}
    (hquote : isQuote quote = true) (hmore : AtBreak more)
    (hopen : ∀ f, cutText line form quote cs = .error f → f.isOpen = false) :
    cutText line form quote (cs ++ more) = (cutText line form quote cs).map (Cut.onto more) := by
  rw [cutText, isPrefixOf_pair_append hquote hmore]
  rw [cutText] at hopen ⊢
  split_ifs at hopen ⊢ with hthree
  · have htwo : 2 ≤ cs.length := (List.isPrefixOf_iff_prefix.mp hthree).length_le
    rw [List.drop_append_of_le_length htwo]
    rcases hbody : textBody [quote, quote, quote] 0 (cs.drop 2) with passed | ⟨body, rest⟩
    · rw [hbody] at hopen
      exact absurd (hopen _ rfl) (by simp [LexFault.isOpen])
    · rw [textBody_append hbody]
      rfl
  · rcases hbody : textBody [quote] 0 cs with passed | ⟨body, rest⟩
    · rw [hbody] at hopen
      exact absurd (hopen _ rfl) (by simp [LexFault.isOpen])
    · rw [textBody_append hbody]
      rfl

/-! ### Lexemes -/

lemma isNameRest_newline : isNameRest '\n' = false := by decide +kernel

lemma cutWord_append {line : Nat} {c : Char} {cs : List Char} (hmore : AtBreak more)
    (hopen : ∀ f, cutWord line c cs = .error f → f.isOpen = false) :
    cutWord line c (cs ++ more) = (cutWord line c cs).map (Cut.onto more) := by
  rcases hdrop : cs.dropWhile isNameRest with _ | ⟨q, rest⟩
  · -- the name goes to the end of the line
    have hall : ∀ d ∈ cs, isNameRest d = true := List.dropWhile_eq_nil_iff.mp hdrop
    have htake : cs.takeWhile isNameRest = cs := List.takeWhile_eq_self_iff.mpr hall
    simp only [cutWord, hdrop, htake]
    rcases hmore.eq with rfl | ⟨rest, rfl⟩
    · simp only [List.append_nil, hdrop, htake]
      rfl
    · rw [List.takeWhile_append_of_pos hall, List.dropWhile_append_of_pos hall,
        List.takeWhile_cons_of_neg (by simp [isNameRest_newline]),
        List.dropWhile_cons_of_neg (by simp [isNameRest_newline])]
      simp [isQuote_newline, Except.map, Cut.onto]
  · -- the name ends within the line, at `q`
    have hsplit : cs ++ more =
        cs.takeWhile isNameRest ++ (q :: (rest ++ more)) := by
      rw [← List.cons_append, ← hdrop, ← List.append_assoc, List.takeWhile_append_dropWhile]
    have hq : isNameRest q = false := by
      have := List.head?_dropWhile_not isNameRest cs
      simpa [hdrop] using this
    have htaken : ∀ d ∈ cs.takeWhile isNameRest, isNameRest d = true :=
      fun d hd => List.mem_takeWhile_imp hd
    have htake : (cs ++ more).takeWhile isNameRest = cs.takeWhile isNameRest := by
      rw [hsplit, List.takeWhile_append_of_pos htaken, List.takeWhile_cons_of_neg (by simp [hq]),
        List.append_nil]
    have hrest : (cs ++ more).dropWhile isNameRest = q :: (rest ++ more) := by
      rw [hsplit, List.dropWhile_append_of_pos htaken, List.dropWhile_cons_of_neg (by simp [hq])]
    simp only [cutWord, hdrop] at hopen
    simp only [cutWord, hdrop, htake, hrest]
    by_cases hquote : isQuote q = true
    · simp only [hquote, if_true] at hopen ⊢
      rcases hform : textForm? (c :: cs.takeWhile isNameRest) with _ | form
      · rfl
      · rw [hform] at hopen
        exact cutText_append hquote hmore hopen
    · simp only [hquote, Bool.false_eq_true, if_false]
      rfl

lemma cutSign_append (hmore : AtBreak more) (c : Char) (cs : List Char) :
    cutSign c (cs ++ more) = (cutSign c cs).onto more := by
  rcases cs with _ | ⟨d, cs⟩
  · rcases hmore.eq with rfl | ⟨rest, rfl⟩
    · rfl
    · have hdouble : doubleSigns.contains (String.ofList [c, '\n']) = false := by
        rw [List.contains_eq_mem, decide_eq_false_iff_not]
        intro hmem
        have hlist := List.mem_map_of_mem (f := String.toList) hmem
        rw [String.toList_ofList] at hlist
        simp [doubleSigns] at hlist
      rw [List.nil_append, cutSign, hdouble]
      rfl
  · simp only [List.cons_append, cutSign]
    split_ifs <;> rfl

/-- The lexeme at the beginning of a line is the same with other lines after it, unless it is a text
that has no end. -/
lemma cut_append {line : Nat} {c : Char} {cs : List Char} (hmore : AtBreak more)
    (hopen : ∀ f, cut line c cs = .error f → f.isOpen = false) :
    cut line c (cs ++ more) = (cut line c cs).map (Cut.onto more) := by
  have hdigit : (cs ++ more).head?.any Char.isDigit = cs.head?.any Char.isDigit :=
    any_head?_append (by decide) hmore cs
  unfold cut at hopen ⊢
  rw [hdigit]
  split_ifs at hopen ⊢ with hstart hnumber hquote hbad
  · exact cutWord_append hmore hopen
  · exact cutNumber_append hmore c cs
  · exact cutText_append hquote hmore hopen
  · rfl
  · rw [cutSign_append hmore]
    rfl

/-- The lexeme is one of those that are cut: no end of a line, and no place where cutting halts. -/
def Lexeme.IsPlain (l : Lexeme) : Prop := l ≠ .lineEnd ∧ ∀ why, l ≠ .halt why

/-- What is cut off a line is plain and leaves the rest of the line. -/
structure Cut.IsLineCut (cs : List Char) (k : Cut) : Prop where
  plain : k.lexeme.IsPlain
  breaks : k.breaks = 0
  rest : k.rest <:+ cs

lemma Number.lexeme_isPlain (n : Number) : n.lexeme.IsPlain := by
  unfold Number.lexeme
  split <;> exact ⟨by simp, by simp⟩

lemma textLexeme_isPlain (form : TextForm) (body : List Char) : (textLexeme form body).IsPlain := by
  unfold textLexeme
  split_ifs
  · exact ⟨by simp, by simp⟩
  · exact ⟨by simp, by simp⟩
  · split <;> exact ⟨by simp, by simp⟩

lemma cutNumber_isLineCut {c : Char} {cs : List Char} {k : Cut} (h : cutNumber c cs = .ok k) :
    k.IsLineCut cs := by
  obtain ⟨text, n, htext, -, hlexeme, hbreaks⟩ := exists_read?_of_cutNumber h
  exact ⟨hlexeme ▸ n.lexeme_isPlain, hbreaks, text, htext.symm⟩

lemma cutText_isLineCut {line : Nat} {form : TextForm} {quote : Char} {cs : List Char} {k : Cut}
    (h : cutText line form quote cs = .ok k) (hcs : '\n' ∉ cs) : k.IsLineCut cs := by
  have hcount {body : List Char} (hbody : body ⊆ cs) : body.count '\n' = 0 :=
    List.count_eq_zero.mpr fun hmem => hcs (hbody hmem)
  unfold cutText at h
  split at h
  · split at h
    · next body rest hbody =>
      obtain rfl := Except.ok.inj h
      have hsplit := textBody_split hbody
      have hdrop := List.drop_suffix 2 cs
      refine ⟨textLexeme_isPlain form body, hcount fun c hc => hdrop.subset ?_, ?_⟩
      · simp [hsplit, hc]
      · exact (hsplit ▸ List.suffix_append _ rest).trans hdrop
    · cases h
  · split at h
    · next body rest hbody =>
      obtain rfl := Except.ok.inj h
      have hsplit := textBody_split hbody
      refine ⟨textLexeme_isPlain form body, hcount fun c hc => ?_, ?_⟩
      · simp [hsplit, hc]
      · exact hsplit ▸ List.suffix_append _ rest
    · cases h

lemma nameLexeme_isPlain (word : List Char) : (nameLexeme word).IsPlain := by
  simp [Lexeme.IsPlain, nameLexeme]

lemma cutWord_isLineCut {line : Nat} {c : Char} {cs : List Char} {k : Cut}
    (h : cutWord line c cs = .ok k) (hcs : '\n' ∉ cs) : k.IsLineCut cs := by
  have hdrop : cs.dropWhile isNameRest <:+ cs := List.dropWhile_suffix _
  unfold cutWord at h
  simp only at h
  split at h
  · obtain rfl := Except.ok.inj h
    exact ⟨nameLexeme_isPlain _, rfl, List.nil_suffix⟩
  · next q rest hrest =>
    rw [hrest] at hdrop
    have htail : rest <:+ cs := (List.suffix_cons q rest).trans hdrop
    split at h
    · obtain ⟨hplain, hbreaks, hsuffix⟩ := cutText_isLineCut h fun hmem => hcs (htail.subset hmem)
      exact ⟨hplain, hbreaks, hsuffix.trans htail⟩
    · obtain rfl := Except.ok.inj h
      exact ⟨nameLexeme_isPlain _, rfl, hdrop⟩

lemma cutSign_isLineCut (c : Char) (cs : List Char) : (cutSign c cs).IsLineCut cs := by
  unfold cutSign
  split
  · split
    · exact ⟨⟨by simp, by simp⟩, rfl, List.suffix_cons _ _⟩
    · exact ⟨⟨by simp, by simp⟩, rfl, List.suffix_rfl⟩
  · exact ⟨⟨by simp, by simp⟩, rfl, List.suffix_rfl⟩

lemma cut_isLineCut {line : Nat} {c : Char} {cs : List Char} {k : Cut} (h : cut line c cs = .ok k)
    (hcs : '\n' ∉ cs) : k.IsLineCut cs := by
  unfold cut at h
  split_ifs at h
  · exact cutWord_isLineCut h hcs
  · exact cutNumber_isLineCut h
  · exact cutText_isLineCut h hcs
  · obtain rfl := Except.ok.inj h
    exact cutSign_isLineCut c cs

/-! ### The colon at the end of a line -/

lemma getLast?_of_cutText {line : Nat} {form : TextForm} {quote : Char} {cs : List Char} {k : Cut}
    (h : cutText line form quote cs = .ok k) (hrest : k.rest = []) : cs.getLast? = some quote := by
  unfold cutText at h
  split at h
  · split at h
    · next body rest hbody =>
      obtain rfl := Except.ok.inj h
      obtain rfl : rest = [] := hrest
      have hsplit := textBody_split hbody
      rw [← List.take_append_drop 2 cs, hsplit]
      simp
    · cases h
  · split at h
    · next body rest hbody =>
      obtain rfl := Except.ok.inj h
      obtain rfl : rest = [] := hrest
      simp [textBody_split hbody]
    · cases h

lemma ne_colon_of_cutWord {line : Nat} {c : Char} {cs : List Char} {k : Cut}
    (h : cutWord line c cs = .ok k) (hc : isNameStart c = true) (hrest : k.rest = []) :
    (c :: cs).getLast? ≠ some ':' := by
  intro hlast
  have hstart : isNameStart ':' = false := by decide +kernel
  have hname : isNameRest ':' = false := by decide +kernel
  unfold cutWord at h
  simp only at h
  split at h
  · next hdrop =>
    rcases List.mem_cons.mp (List.mem_of_getLast? hlast) with rfl | hmem
    · simp [hstart] at hc
    · have := List.dropWhile_eq_nil_iff.mp hdrop ':' hmem
      simp [hname] at this
  · next q rest hdrop =>
    split at h
    · next form hform =>
      have hquote : isQuote q = true := by
        split at hform
        · assumption
        · cases hform
      have hsplit : c :: cs = (c :: cs.takeWhile isNameRest) ++ [q] ++ rest := by
        rw [List.append_assoc, List.singleton_append, ← hdrop, List.cons_append,
          List.takeWhile_append_dropWhile]
      rw [hsplit, List.getLast?_append, getLast?_of_cutText h hrest] at hlast
      obtain rfl : q = ':' := by simpa using hlast
      exact absurd hquote (by decide)
    · obtain rfl := Except.ok.inj h
      cases hrest

lemma ne_colon_of_cutNumber {c : Char} {cs : List Char} {k : Cut} (h : cutNumber c cs = .ok k)
    (hrest : k.rest = []) : (c :: cs).getLast? ≠ some ':' := by
  intro hlast
  obtain ⟨text, n, htext, hread, -⟩ := exists_read?_of_cutNumber h
  rw [hrest, List.append_nil] at htext
  subst htext
  rcases (numberLiteral_of_read? hread).decimal.chars ':' (List.mem_of_getLast? hlast) with h | h
  · exact absurd h (by decide)
  · exact absurd h (by decide)

/-- A lexeme that ends a line with a colon is the colon. -/
lemma lexeme_of_cut_colon {line : Nat} {c : Char} {cs : List Char} {k : Cut}
    (h : cut line c cs = .ok k) (hrest : k.rest = []) (hlast : (c :: cs).getLast? = some ':') :
    k.lexeme = .sign ":" := by
  unfold cut at h
  split_ifs at h with hstart hdigit hquote
  · exact absurd hlast (ne_colon_of_cutWord h hstart hrest)
  · exact absurd hlast (ne_colon_of_cutNumber h hrest)
  · have hend := getLast?_of_cutText h hrest
    rw [← List.singleton_append, List.getLast?_append, hend] at hlast
    obtain rfl : c = ':' := by simpa using hlast
    exact absurd hquote (by decide)
  · obtain rfl := Except.ok.inj h
    rcases cs with _ | ⟨d, ds⟩
    · obtain rfl : c = ':' := by simpa using hlast
      rfl
    · have hdouble : ∀ s ∈ doubleSigns, s.toList.getLast? ≠ some ':' := by decide
      simp only [cutSign] at hrest ⊢
      split_ifs at hrest ⊢ with hsign
      -- no sign of two characters ends with a colon
      obtain rfl : ds = [] := hrest
      have hmem : String.ofList [c, d] ∈ doubleSigns := by simpa using hsign
      exact absurd (by simpa using hlast) (hdouble _ hmem)

end

/-! ### Lines -/

section

variable {fresh : Bool} {line blanks : Nat} {levels : List Nat} {opened : List Opening}

/-- What a scan that goes through has found at its beginning: a place to halt, or a lexeme. -/
lemma scan_inv {c : Char} {cs : List Char} {ps : Pieces} (hc : c ∉ gapChars)
    (h : scan fresh line blanks levels opened (c :: cs) = .ok ps) :
    (∃ why, (if fresh then levelsAt blanks levels else .ok levels) = .error why ∧
      ps = .halted why line blanks opened) ∨
    ∃ current k now tail, (if fresh then levelsAt blanks levels else .ok levels) = .ok current ∧
      cut line c cs = .ok k ∧ k.lexeme.brackets opened line = .ok now ∧
      scan false (line + k.breaks) 0 current now k.rest = .ok tail ∧
      ps = tail.add ⟨k.lexeme, line, blanks, now.length⟩ := by
  rcases hlevels : (if fresh then levelsAt blanks levels else .ok levels) with why | current
  · rw [scan_halted hc hlevels] at h
    exact .inl ⟨why, rfl, (Except.ok.inj h).symm⟩
  rw [scan_lexeme hc hlevels] at h
  rcases hcut : cut line c cs with f | k
  · rw [hcut] at h
    cases h
  rcases hnow : k.lexeme.brackets opened line with f | now
  · simp only [hcut, hnow, Except.mapError, Except.bind] at h
    cases h
  simp only [hcut, hnow, Except.mapError, Except.bind] at h
  obtain ⟨tail, htail, rfl⟩ := map_eq_ok h
  exact .inr ⟨current, k, now, tail, rfl, rfl, hnow, htail, rfl⟩

lemma scan_fault {c : Char} {cs : List Char} {f : LexFault} (hc : c ∉ gapChars)
    (h : cut line c cs = .error f) :
    scan false line blanks levels opened (c :: cs) = .error (f, line) := by
  rw [scan_lexeme hc rfl, h]
  rfl

lemma scan_backslash (cs : List Char) :
    scan fresh line blanks levels opened ('\\' :: cs) =
      .ok (.halted .strayBackslash line blanks opened) := by
  rw [scan]
  simp

end

/-- A scan leaves no bracket open, and no text where it fails. -/
def Settles (r : Except (LexFault × Nat) Pieces) : Prop :=
  (∀ ps, r = .ok ps → ps.opened = []) ∧ ∀ f, r = .error f → f.1.isOpen = false

lemma Settles.of_ahead {ps : List Piece} {r : Except (LexFault × Nat) Pieces}
    (h : Settles (ahead ps r)) : Settles r := by
  constructor
  · rintro qs rfl
    have hopened := h.1 _ rfl
    exact hopened
  · rintro f rfl
    exact h.2 _ rfl

/-- Whether a line, cut by itself, leaves a text or a bracket open. -/
def leavesOpen (line : Nat) (text : List Char) : Bool :=
  match scan false line 0 [] [] text with
  | .ok ps => !ps.opened.isEmpty
  | .error f => f.1.isOpen

lemma settles_of_leavesOpen {line : Nat} {text : List Char} (h : leavesOpen line text = false) :
    Settles (scan false line 0 [] [] text) := by
  unfold leavesOpen at h
  constructor
  · intro ps hps
    rw [hps] at h
    simpa using h
  · intro f hf
    rw [hf] at h
    exact h

/-- The pieces end as the text does: there are none if it is empty, and the last of them is a colon
if it ends with one. -/
structure EndsAlike (cs : List Char) (qs : List Piece) : Prop where
  empty : cs = [] → qs = []
  colon : cs.getLast? = some ':' → ∃ q ∈ qs.getLast?, q.lexeme = .sign ":"

lemma endsAlike_nil : EndsAlike [] [] := ⟨fun _ => rfl, by simp⟩

lemma EndsAlike.skip {c : Char} {cs : List Char} {qs : List Piece} (h : EndsAlike cs qs)
    (hc : c ≠ ':') : EndsAlike (c :: cs) qs := by
  refine ⟨by simp, fun hlast => h.colon ?_⟩
  rcases cs with _ | ⟨d, cs⟩
  · exact absurd (by simpa using hlast) hc
  · rwa [List.getLast?_cons_cons] at hlast

lemma EndsAlike.cons {line : Nat} {c : Char} {cs : List Char} {k : Cut} {qs : List Piece}
    (h : EndsAlike k.rest qs) (hcut : cut line c cs = .ok k) (hrest : k.rest <:+ cs) {p : Piece}
    (hp : p.lexeme = k.lexeme) : EndsAlike (c :: cs) (p :: qs) := by
  refine ⟨by simp, fun hlast => ?_⟩
  rcases List.eq_nil_or_concat' k.rest with hnil | ⟨before, d, hconcat⟩
  · rw [h.empty hnil]
    exact ⟨p, rfl, hp.trans (lexeme_of_cut_colon hcut hnil hlast)⟩
  · -- the text after the lexeme has the same end
    obtain ⟨first, hfirst⟩ := hrest
    rw [← hfirst, hconcat, ← List.cons_append, ← List.append_assoc, List.getLast?_concat] at hlast
    obtain ⟨q, hq, hcolon⟩ := h.colon (by rw [hconcat, List.getLast?_concat, hlast])
    have hne : qs ≠ [] := by
      rintro rfl
      cases hq
    exact ⟨q, by rwa [List.getLast?_cons_of_ne_nil hne], hcolon⟩

/-- The pieces of a whole text that begins with a line: those of the line, and either the place
where cutting halts or the pieces that are cut from there on. -/
inductive GoesOn (line : Nat) (levels : List Nat) (cs more : List Char) (qs : List Piece)
    (whole : Pieces) : Prop
  | halted {blanks depth : Nat} {e : Piece} (hend : e.lexeme = .lineEnd)
      (h : whole.list = qs ++ [⟨.halt .strayBackslash, line, blanks, depth⟩, e])
  | onward {blanks : Nat} {tail : Pieces} (hends : EndsAlike cs qs)
      (hscan : scan false line blanks levels [] more = .ok tail) (h : whole.list = qs ++ tail.list)

section

variable {line : Nat} {levels : List Nat} {cs ds more : List Char} {qs : List Piece}
  {whole : Pieces}

lemma GoesOn.imp (h : GoesOn line levels cs more qs whole)
    (hends : EndsAlike cs qs → EndsAlike ds qs) : GoesOn line levels ds more qs whole := by
  cases h with
  | halted hend h => exact .halted hend h
  | onward halike hscan h => exact .onward (hends halike) hscan h

lemma GoesOn.cons (h : GoesOn line levels cs more qs whole) {p : Piece}
    (hends : EndsAlike cs qs → EndsAlike ds (p :: qs)) :
    GoesOn line levels ds more (p :: qs) (whole.add p) := by
  cases h with
  | halted hend h => exact .halted hend (by rw [Pieces.add, h, List.cons_append])
  | onward halike hscan h =>
    exact .onward (hends halike) hscan (by rw [Pieces.add, h, List.cons_append])

end

/-- The first lexeme of a line is cut off in the same way by itself and with other lines after it.
By itself the line has other levels, which do not matter within it. -/
lemma scan_first {fresh : Bool} {line blanks : Nat} {levels alone : List Nat}
    {opened : List Opening} {c : Char} {cs more : List Char} (hmore : AtBreak more)
    (hgap : c ∉ gapChars) (hcs : '\n' ∉ cs)
    (hsettles : Settles (scan false line blanks alone opened (c :: cs))) {whole : Pieces}
    (hwhole : scan fresh line blanks levels opened (c :: (cs ++ more)) = .ok whole) :
    (∃ why, (if fresh then levelsAt blanks levels else .ok levels) = .error why ∧
      whole = .halted why line blanks opened) ∨
    ∃ current k now tail, (if fresh then levelsAt blanks levels else .ok levels) = .ok current ∧
      cut line c cs = .ok k ∧ k.IsLineCut cs ∧
      Settles (scan false line 0 alone now k.rest) ∧
      scan false line 0 current now (k.rest ++ more) = .ok tail ∧
      whole = tail.add ⟨k.lexeme, line, blanks, now.length⟩ := by
  obtain ⟨why, hwhy, rfl⟩ | ⟨current, k', now, tail, hcurrent, hcut', hnow, htail, rfl⟩ :=
    scan_inv hgap hwhole
  · exact .inl ⟨why, hwhy, rfl⟩
  rw [cut_append hmore fun f hf => hsettles.2 (f, line) (scan_fault hgap hf)] at hcut'
  obtain ⟨k, hcut, rfl⟩ := map_eq_ok hcut'
  have hline := cut_isLineCut hcut hcs
  rw [scan_cut hgap (.inl rfl) hcut hnow, hline.breaks] at hsettles
  have hbreaks : (k.onto more).breaks = 0 := hline.breaks
  rw [hbreaks] at htail
  exact .inr ⟨current, k, now, tail, hcurrent, hcut, hline, hsettles.of_ahead, htail, rfl⟩

/-- Within a line, cutting goes on to the end of the line or halts. -/
lemma scan_line {line : Nat} {levels alone : List Nat} {cs more : List Char} (hmore : AtBreak more)
    (hcs : ∀ c ∈ cs, c ≠ '\n' ∧ c ≠ '#') {blanks : Nat} {opened : List Opening}
    (hsettles : Settles (scan false line blanks alone opened cs)) {whole : Pieces}
    (hwhole : scan false line blanks levels opened (cs ++ more) = .ok whole) :
    ∃ qs, (∀ q ∈ qs, q.lexeme.IsPlain) ∧ GoesOn line levels cs more qs whole := by
  -- a lexeme takes any number of characters, so the induction is on how many are left
  induction hlength : cs.length using Nat.strong_induction_on
    generalizing cs blanks opened whole with
  | _ n ih =>
  subst hlength
  rcases cs with _ | ⟨c, cs⟩
  · have hopened : opened = [] := hsettles.1 _ (by rw [scan])
    subst hopened
    exact ⟨[], by simp, .onward endsAlike_nil hwhole rfl⟩
  obtain ⟨hfeed, hhash⟩ := hcs c List.mem_cons_self
  have hrest : ∀ d ∈ cs, d ≠ '\n' ∧ d ≠ '#' := fun d hd => hcs d (List.mem_cons_of_mem c hd)
  rw [List.cons_append] at hwhole
  by_cases hblank : c = ' ' ∨ c = '\t' ∨ c = '\x0c'
  · have hskip (levels : List Nat) (ds : List Char) :
        scan false line blanks levels opened (c :: ds) =
          scan false line (blanks + 1) levels opened ds := by
      rw [scan]
      rcases hblank with rfl | rfl | rfl <;> simp
    rw [hskip] at hsettles hwhole
    obtain ⟨qs, hqs, hgoes⟩ := ih cs.length (Nat.lt_succ_self _) hrest hsettles hwhole rfl
    refine ⟨qs, hqs, hgoes.imp fun hends => hends.skip ?_⟩
    rcases hblank with rfl | rfl | rfl <;> decide
  by_cases hslash : c = '\\'
  · subst hslash
    rw [scan_backslash] at hwhole
    obtain rfl := Except.ok.inj hwhole
    exact ⟨[], by simp, .halted rfl rfl⟩
  have hgap : c ∉ gapChars := by
    simp only [not_or] at hblank
    simp [gapChars, hfeed, hhash, hblank, hslash]
  obtain ⟨why, hwhy, -⟩ | ⟨current, k, now, tail, hcurrent, hcut, hline, hrun, htail, rfl⟩ :=
    scan_first hmore hgap (fun hmem => (hrest _ hmem).1 rfl) hsettles hwhole
  · cases hwhy
  -- only the first lexeme of a line changes the levels
  obtain rfl : levels = current := Except.ok.inj hcurrent
  obtain ⟨qs, hqs, hgoes⟩ := ih k.rest.length (Nat.lt_succ_of_le hline.rest.length_le)
    (fun d hd => hrest d (hline.rest.subset hd)) hrun htail rfl
  refine ⟨_ :: qs, ?_, hgoes.cons fun hends => hends.cons hcut hline.rest rfl⟩
  rintro q (_ | ⟨_, hq⟩)
  · exact hline.plain
  · exact hqs q hq

lemma group_append {present ps rest : List Piece} {first e : Piece} {tail : List Piece}
    (hps : ∀ p ∈ ps, p.lexeme ≠ .lineEnd) (he : e.lexeme = .lineEnd)
    (hline : present.reverse ++ ps = first :: tail) :
    Line.group present (ps ++ e :: rest) =
      ⟨first.line, first.blanks, first :: tail ++ [e]⟩ :: Line.group [] rest := by
  induction ps generalizing present with
  | nil =>
    rw [List.append_nil] at hline
    rw [List.nil_append, Line.group, if_pos he, List.reverse_cons, hline]
    cases tail <;> rfl
  | cons p ps ih =>
    rw [List.cons_append, Line.group, if_neg (hps p (by simp))]
    refine ih (fun t ht => hps t (List.mem_cons_of_mem p ht)) ?_
    rw [← hline, List.reverse_cons, List.append_assoc]
    rfl

lemma group_line {ps rest : List Piece} {first e : Piece} {tail : List Piece}
    (hps : ∀ p ∈ ps, p.lexeme ≠ .lineEnd) (he : e.lexeme = .lineEnd) (hline : ps = first :: tail) :
    Line.group [] (ps ++ e :: rest) =
      ⟨first.line, first.blanks, first :: tail ++ [e]⟩ :: Line.group [] rest :=
  group_append hps he hline

/-- The pieces of a line are plain up to its end. -/
def Line.IsWhole (l : Line) : Prop :=
  ∃ qs e, l.pieces = qs ++ [e] ∧ e.lexeme = .lineEnd ∧ ∀ q ∈ qs, q.lexeme.IsPlain

/-- Cutting halts after plain pieces of the line. -/
def Line.Halts (l : Line) (why : Halt) : Prop :=
  ∃ qs h e, l.pieces = qs ++ [h, e] ∧ h.lexeme = .halt why ∧ e.lexeme = .lineEnd ∧
    ∀ q ∈ qs, q.lexeme.IsPlain

def Line.EndsWithColon (l : Line) : Prop :=
  ∃ qs p e, l.pieces = qs ++ [p, e] ∧ p.lexeme = .sign ":" ∧ e.lexeme = .lineEnd

lemma Line.IsWhole.ne_halt {l : Line} (h : l.IsWhole) {p : Piece} (hp : p ∈ l.pieces) (why : Halt) :
    p.lexeme ≠ .halt why := by
  obtain ⟨qs, e, hpieces, he, hqs⟩ := h
  rw [hpieces, List.mem_append, List.mem_singleton] at hp
  rcases hp with hp | rfl
  · exact (hqs p hp).2 why
  · simp [he]

lemma Line.Halts.eq {l : Line} {why : Halt} (h : l.Halts why) {p : Piece} (hp : p ∈ l.pieces)
    {other : Halt} (hother : p.lexeme = .halt other) : other = why := by
  obtain ⟨qs, halt, e, hpieces, hhalt, he, hqs⟩ := h
  simp only [hpieces, List.mem_append, List.mem_cons, List.not_mem_nil, or_false] at hp
  rcases hp with hp | rfl | rfl
  · exact absurd hother ((hqs p hp).2 other)
  · exact Lexeme.halt.inj (hother.symm.trans hhalt)
  · simp [he] at hother

/-- The lines of a text that begins with a given line, of which the code is `c :: cs`: cutting halts
on the line, or goes on after it. -/
inductive LinesFrom (line column : Nat) (levels : List Nat) (c : Char) (cs more : List Char) :
    List Line → Prop
  | halted {l : Line} {why : Halt} (hnumber : l.number = line) (hcolumn : l.column = column)
      (hhalts : l.Halts why) (hwhy : why = .strayBackslash ∨ levelsAt column levels = .error why) :
      LinesFrom line column levels c cs more [l]
  | onward {l : Line} {current : List Nat} {k : Cut} {blanks : Nat} {tail : Pieces} {e : Piece}
      {rest : List Piece} (hnumber : l.number = line) (hcolumn : l.column = column)
      (hwhole : l.IsWhole) (hcut : cut line c cs = .ok k)
      (hfirst : (after? k.lexeme l.pieces).isSome = true)
      (hcolon : (c :: cs).getLast? = some ':' → l.EndsWithColon)
      (hcurrent : levelsAt column levels = .ok current)
      (hscan : scan false line blanks current [] more = .ok tail) (htail : tail.list = e :: rest) :
      LinesFrom line column levels c cs more (l :: Line.group [] rest)

/-- A text goes on after a line with the end of the line. -/
lemma scan_atBreak {line blanks : Nat} {levels : List Nat} {more : List Char} (hmore : AtBreak more)
    {tail : Pieces} (h : scan false line blanks levels [] more = .ok tail) :
    ∃ e rest, tail.list = e :: rest ∧ e.lexeme = .lineEnd ∧
      (more = [] → rest = []) ∧
      ∀ next, more = '\n' :: next →
        ∃ tail', scan true (line + 1) 0 levels [] next = .ok tail' ∧ tail'.list = rest := by
  rcases hmore.eq with rfl | ⟨next, rfl⟩
  · rw [scan_nil] at h
    obtain rfl := Except.ok.inj h
    exact ⟨_, [], rfl, rfl, fun _ => rfl, by simp⟩
  · rw [scan_newline] at h
    obtain ⟨tail', htail', rfl⟩ := map_eq_ok h
    refine ⟨_, tail'.list, rfl, rfl, by simp, fun next' hnext => ?_⟩
    obtain ⟨-, rfl⟩ := List.cons.inj hnext
    exact ⟨tail', htail', rfl⟩

lemma scan_spaces {fresh : Bool} {line blanks : Nat} {levels : List Nat} {opened : List Opening}
    (n : Nat) (cs : List Char) :
    scan fresh line blanks levels opened (List.replicate n ' ' ++ cs) =
      scan fresh line (blanks + n) levels opened cs := by
  induction n generalizing blanks with
  | zero => rfl
  | succ n ih => rw [List.replicate_succ, List.cons_append, scan_space, ih, Nat.add_right_comm,
      Nat.add_assoc]

def marginChars : List Char := ['\n', ' ', '\t', '\x0c', '#']

/-- A line on which cutting halts is the last. -/
lemma LinesFrom.of_halt {line column : Nat} {levels : List Nat} {c : Char} {cs more : List Char}
    {qs : List Piece} {h e : Piece} {why : Halt} (hqs : ∀ q ∈ qs, q.lexeme.IsPlain)
    (hh : h.lexeme = .halt why) (he : e.lexeme = .lineEnd)
    (hwhy : why = .strayBackslash ∨ levelsAt column levels = .error why)
    (hbegin : ∀ q ∈ (qs ++ [h]).head?, q.line = line ∧ q.blanks = column) :
    LinesFrom line column levels c cs more (Line.group [] (qs ++ [h, e])) := by
  obtain ⟨first, tail, hcons⟩ := List.exists_cons_of_ne_nil (List.append_ne_nil_of_right_ne_nil qs
    (List.cons_ne_nil h []))
  have hends : ∀ q ∈ qs ++ [h], q.lexeme ≠ .lineEnd := by
    intro q hq
    rcases List.mem_append.mp hq with hq | hq
    · exact (hqs q hq).1
    · rw [List.mem_singleton.mp hq, hh]
      simp
  rw [hcons] at hbegin
  rw [List.append_cons qs h [e], group_line hends he hcons, ← hcons, Line.group]
  obtain ⟨hnumber, hcolumn⟩ := hbegin first rfl
  exact .halted hnumber hcolumn ⟨qs, h, e, by simp, hh, he, hqs⟩ hwhy

/-- A line that leaves nothing open is the first line of a text that begins with it. -/
lemma linesFrom_scan {line n : Nat} {levels : List Nat} {c : Char} {cs more : List Char}
    (hmore : AtBreak more) (hc : c ∉ marginChars) (hcs : ∀ d ∈ cs, d ≠ '\n' ∧ d ≠ '#')
    (hsettles : Settles (scan false line 0 [] [] (List.replicate n ' ' ++ c :: cs)))
    {whole : Pieces}
    (hwhole : scan true line 0 levels [] (List.replicate n ' ' ++ (c :: cs ++ more)) = .ok whole) :
    LinesFrom line n levels c cs more (Line.group [] whole.list) := by
  rw [scan_spaces, Nat.zero_add] at hsettles hwhole
  rw [List.cons_append] at hwhole
  have hnone : ∀ q ∈ ([] : List Piece), q.lexeme.IsPlain := by simp
  by_cases hslash : c = '\\'
  · -- the line halts at once
    subst hslash
    rw [scan_backslash] at hwhole
    obtain rfl := Except.ok.inj hwhole
    exact .of_halt hnone rfl rfl (.inl rfl) (by simp)
  have hgap : c ∉ gapChars := by
    simp only [marginChars, List.mem_cons, List.not_mem_nil, or_false, not_or] at hc
    simp [gapChars, hc, hslash]
  obtain ⟨why, hwhy, rfl⟩ | ⟨current, k, now, tail, hcurrent, hcut, hline, hrun, htail, rfl⟩ :=
    scan_first hmore hgap (fun hmem => (hcs _ hmem).1 rfl) hsettles hwhole
  · exact .of_halt hnone rfl rfl (.inr hwhy) (by simp)
  obtain ⟨qs, hqs, hgoes⟩ := scan_line hmore (fun d hd => hcs d (hline.rest.subset hd)) hrun htail
  have hplain : ∀ q ∈ (⟨k.lexeme, line, n, now.length⟩ : Piece) :: qs, q.lexeme.IsPlain := by
    rintro q (_ | ⟨_, hq⟩)
    · exact hline.plain
    · exact hqs q hq
  cases hgoes with
  | halted he hlist =>
    rw [Pieces.add, hlist, ← List.cons_append]
    exact .of_halt hplain rfl he (.inl rfl) (by simp)
  | onward hends hscan hlist =>
    obtain ⟨e, rest, htail', he, -⟩ := scan_atBreak hmore hscan
    rw [Pieces.add, hlist, htail', ← List.cons_append,
      group_line (fun q hq => (hplain q hq).1) he rfl]
    refine .onward rfl rfl ⟨_, e, rfl, he, hplain⟩ hcut (by simp [after?]) (fun hlast => ?_)
      hcurrent hscan htail'
    have halike : EndsAlike (c :: cs) (⟨k.lexeme, line, n, now.length⟩ :: qs) :=
      hends.cons hcut hline.rest rfl
    obtain ⟨p, hp, hcolon⟩ := halike.colon hlast
    obtain ⟨before, hbefore⟩ := List.getLast?_eq_some_iff.mp hp
    exact ⟨before, p, e, by rw [hbefore, List.append_assoc]; rfl, hcolon, he⟩

/-! ### Layouts -/

def clauseWords : List String := ["elif", "else", "except", "finally"]

def headWords : List String := ["if", "while", "for", "try", "def"] ++ clauseWords

/-- The line begins with the word of a head and ends with a colon. -/
structure Line.IsHead (l : Line) : Prop where
  word : ∃ word ∈ headWords, (l.after? word).isSome = true
  colon : l.EndsWithColon

/-- A line may follow another: in its column or further out, or one level further in after a head.
-/
def Follows (l m : Line) : Prop := m.column ≤ l.column ∨ l.IsHead ∧ m.column = l.column + 4

/-- Lines that stand at levels of four blanks, of which each may follow the one before. -/
structure Laid (ls : List Line) : Prop where
  steps : ls.IsChain Follows
  width : ∀ l ∈ ls, 4 ∣ l.column

end Flowline.Script
