import Flowline.Emit.Condition
import Flowline.Proofs.Words

/-!
The operators of conditions.

The signs of the operators are put into the text of a condition as a whole, one operator after the
other, and the text is cut into words again. Where operators and operands take turns, no two
occurrences of an operator share a space, so every replacement finds every operator it is meant for
and nothing else: what comes out is the condition translated word by word.

Before that it is asked whether the words are a call. The question looks for two of the operators
only, so a condition that has neither of them and begins with a name is taken for one.
-/

namespace Flowline

open Text

/-! ### Replacing a word between spaces -/

def spaced (w : List Char) : List Char := ' ' :: (w ++ [' '])

def AtSpace (cs : List Char) : Prop := ∀ c ∈ cs.head?, c = ' '

lemma takeWhile_atSpace {w cs : List Char} (hw : ' ' ∉ w) (hcs : AtSpace cs) :
    (w ++ cs).takeWhile (· != ' ') = w := by
  have hpos : ∀ c ∈ w, (c != ' ') = true := by
    intro c hc
    rw [bne_iff_ne]
    rintro rfl
    exact hw hc
  rw [List.takeWhile_append_of_pos hpos]
  cases cs with
  | nil => simp
  | cons c cs => simp [hcs c rfl]

section

variable {op new : List Char}

lemma replaceFrom_passed (old new ps cs : List Char) :
    replaceFrom old new ps.length (ps ++ cs) = replaceFrom old new 0 cs := by
  induction ps with
  | nil => rfl
  | cons c ps ih => exact ih

lemma replaceFrom_word {w : List Char} (hw : ' ' ∉ w) (cs : List Char) :
    replaceFrom (spaced op) new 0 (w ++ cs) = w ++ replaceFrom (spaced op) new 0 cs := by
  induction w with
  | nil => rfl
  | cons c w ih =>
    obtain ⟨hc, htail⟩ : ' ' ≠ c ∧ ' ' ∉ w := by simpa using hw
    have hprefix : ¬ (spaced op).isPrefixOf (c :: (w ++ cs)) = true := by simp [spaced, hc]
    rw [List.cons_append, replaceFrom, if_neg hprefix, ih htail, List.cons_append]

/-- The operator between two spaces is replaced together with the spaces. -/
lemma replaceFrom_operator (op sign cs : List Char) :
    replaceFrom (spaced op) (spaced sign) 0 (' ' :: (op ++ ' ' :: cs)) =
      ' ' :: (sign ++ ' ' :: replaceFrom (spaced op) (spaced sign) 0 cs) := by
  have hprefix : (spaced op).isPrefixOf (' ' :: (op ++ ' ' :: cs)) = true :=
    List.isPrefixOf_iff_prefix.mpr ⟨cs, by simp [spaced]⟩
  have hpassed := replaceFrom_passed (spaced op) (spaced sign) (op ++ [' ']) cs
  rw [replaceFrom, if_pos hprefix]
  simpa [spaced] using hpassed

lemma replaceFrom_other {w cs : List Char} (hop : ' ' ∉ op) (hw : ' ' ∉ w) (hne : w ≠ op)
    (hcs : AtSpace cs) :
    replaceFrom (spaced op) new 0 (' ' :: (w ++ cs)) =
      ' ' :: (w ++ replaceFrom (spaced op) new 0 cs) := by
  have hprefix : ¬ (spaced op).isPrefixOf (' ' :: (w ++ cs)) = true := by
    intro h
    obtain ⟨t, ht⟩ := List.isPrefixOf_iff_prefix.mp h
    have htext : op ++ ' ' :: t = w ++ cs := by simpa [spaced] using ht
    have hspace : AtSpace (' ' :: t) := by simp [AtSpace]
    have hword := congrArg (List.takeWhile (· != ' ')) htext
    rw [takeWhile_atSpace hop hspace, takeWhile_atSpace hw hcs] at hword
    exact hne hword.symm
  rw [replaceFrom, if_neg hprefix, replaceFrom_word hw]

end

/-! ### Words in a row -/

def trail (ws : List (List Char)) : List Char := ws.flatMap (' ' :: ·)

lemma trail_cons (w : List Char) (ws : List (List Char)) :
    trail (w :: ws) = ' ' :: (w ++ trail ws) := rfl

lemma atSpace_trail (ws : List (List Char)) : AtSpace (trail ws) := by
  cases ws with
  | nil => simp [AtSpace, trail]
  | cons w ws => simp [AtSpace, trail_cons]

lemma intercalate_cons_eq_trail (w : List Char) (ws : List (List Char)) :
    [' '].intercalate (w :: ws) = w ++ trail ws := by
  induction ws generalizing w with
  | nil => simp [trail]
  | cons v ws ih =>
    rw [List.intercalate_cons_cons, ih v, trail_cons]
    simp

lemma words_intercalate {ws : List (List Char)}
    (h : ∀ w ∈ ws, w ≠ [] ∧ ∀ c ∈ w, isBlank c = false) :
    words isBlank ([' '].intercalate ws) = ws := by
  induction ws with
  | nil => simp [words_nil]
  | cons w ws ih =>
    obtain ⟨hne, hw⟩ := h w (by simp)
    have htail := ih fun v hv => h v (List.mem_cons_of_mem w hv)
    cases ws with
    | nil => simpa using words_of_forall_not hne hw
    | cons v vs =>
      have hblank : isBlank ' ' = true := by decide
      rw [List.intercalate_cons_cons, List.append_assoc, List.singleton_append,
        words_append_cons w _ hblank, htail, words_of_forall_not hne hw, List.singleton_append]

/-- The word stands neither at the end of the row nor twice side by side. -/
def Apart (op : List Char) : List (List Char) → Prop
  | [] => True
  | [w] => w ≠ op
  | w :: v :: ws => (w = op → v ≠ op) ∧ Apart op (v :: ws)

section

variable {op : List Char} {ws : List (List Char)}

lemma Apart.tail {w : List Char} (h : Apart op (w :: ws)) : Apart op ws := by
  cases ws with
  | nil => trivial
  | cons v ws => exact h.2

lemma Apart.cons_of_ne {w : List Char} (h : Apart op ws) (hw : w ≠ op) : Apart op (w :: ws) := by
  cases ws with
  | nil => exact hw
  | cons v ws => exact ⟨fun heq => absurd heq hw, h⟩

lemma Apart.append_of_notMem {vs : List (List Char)} (h : Apart op ws) (hvs : op ∉ vs) :
    Apart op (vs ++ ws) := by
  induction vs with
  | nil => exact h
  | cons v vs ih =>
    obtain ⟨hv, htail⟩ : op ≠ v ∧ op ∉ vs := by simpa using hvs
    exact (ih htail).cons_of_ne hv.symm

/-- Changing words into others than `op` brings none of them together. -/
lemma Apart.map {f : List Char → List Char} (h : Apart op ws) (hf : ∀ w, f w = op → w = op) :
    Apart op (ws.map f) := by
  fun_induction Apart op ws with
  | case1 => trivial
  | case2 w => exact fun heq => h (hf w heq)
  | case3 w v ws ih => exact ⟨fun heq heq' => h.1 (hf w heq) (hf v heq'), ih h.2⟩

/-- Every operator in the row is replaced, and nothing else. -/
lemma replaceFrom_trail (sign : List Char) (hop : ' ' ∉ op) :
    ∀ {ws : List (List Char)}, (∀ w ∈ ws, ' ' ∉ w) → Apart op ws →
      replaceFrom (spaced op) (spaced sign) 0 (trail ws) =
        trail (ws.map fun w => if w = op then sign else w)
  | [], _, _ => rfl
  | [w], hws, h => by
    rw [trail_cons, replaceFrom_other hop (hws w (by simp)) h (atSpace_trail []),
      List.map_singleton, if_neg h]
    rfl
  | w :: v :: ws, hws, h => by
    have hv := hws v (by simp)
    have hrest : ∀ u ∈ ws, ' ' ∉ u := fun u hu => hws u (by simp [hu])
    by_cases hw : w = op
    · -- the match takes the space before the next word with it, which is no operator
      have hne := h.1 hw
      rw [hw, trail_cons, trail_cons, replaceFrom_operator, replaceFrom_word hv,
        replaceFrom_trail sign hop hrest h.2.tail, List.map_cons, List.map_cons, if_pos rfl,
        if_neg hne]
      rfl
    · have htail := replaceFrom_trail sign hop (fun u hu => hws u (List.mem_cons_of_mem w hu)) h.2
      have hmap : (w :: v :: ws).map (fun u => if u = op then sign else u) =
          w :: (v :: ws).map fun u => if u = op then sign else u := by
        rw [List.map_cons, if_neg hw]
      rw [hmap, trail_cons w, replaceFrom_other hop (hws w (by simp)) hw (atSpace_trail _), htail]
      rfl

end

/-- The word that the signs, put in one after the other, leave of a word. -/
def exchanged (signs : List (List Char × List Char)) (w : List Char) : List Char :=
  signs.foldl (fun w s => if w = s.1 then s.2 else w) w

/-- One replacement after the other, each over the whole text, changes every word by itself. -/
lemma foldl_replaceAll {signs : List (List Char × List Char)} {first : List Char}
    {ws : List (List Char)} (hsigns : ∀ s ∈ signs, ' ' ∉ s.1 ∧ ' ' ∉ s.2 ∧ ∀ t ∈ signs, s.2 ≠ t.1)
    (hfirst : ' ' ∉ first) (hws : ∀ w ∈ ws, ' ' ∉ w) (hapart : ∀ s ∈ signs, Apart s.1 ws) :
    signs.foldl (fun cs s => replaceAll (spaced s.1) (spaced s.2) cs) (first ++ trail ws) =
      first ++ trail (ws.map (exchanged signs)) := by
  induction signs generalizing ws with
  | nil =>
    have hsame : exchanged [] = id := rfl
    rw [hsame, List.map_id]
    rfl
  | cons s signs ih =>
    obtain ⟨hop, hsign, hfresh⟩ := hsigns s (by simp)
    have hstep : replaceAll (spaced s.1) (spaced s.2) (first ++ trail ws) =
        first ++ trail (ws.map fun w => if w = s.1 then s.2 else w) := by
      rw [replaceAll, replaceFrom_word hfirst,
        replaceFrom_trail s.2 hop hws (hapart s (by simp))]
    have hwords : ∀ v ∈ ws.map (fun w => if w = s.1 then s.2 else w), ' ' ∉ v := by
      intro v hv
      obtain ⟨w, hw, rfl⟩ := List.mem_map.mp hv
      split_ifs
      · exact hsign
      · exact hws w hw
    -- no sign that is put in is looked for again
    have hstill : ∀ t ∈ signs, Apart t.1 (ws.map fun w => if w = s.1 then s.2 else w) := by
      intro t ht
      refine (hapart t (List.mem_cons_of_mem s ht)).map fun w heq => ?_
      split_ifs at heq
      · exact absurd heq (hfresh t (List.mem_cons_of_mem s ht))
      · exact heq
    have hrest : ∀ t ∈ signs, ' ' ∉ t.1 ∧ ' ' ∉ t.2 ∧ ∀ u ∈ signs, t.2 ≠ u.1 := by
      intro t ht
      obtain ⟨hop', hsign', hfresh'⟩ := hsigns t (List.mem_cons_of_mem s ht)
      exact ⟨hop', hsign', fun u hu => hfresh' u (List.mem_cons_of_mem s hu)⟩
    rw [List.foldl_cons, hstep, ih hrest hwords hstill, List.map_map]
    rfl

/-! ### Operators and operands -/

def wordOperators : List String := ["是", "不是", "或", "且"]

def signOf (operator : String) : String :=
  if operator = "是" then "=="
  else if operator = "不是" then "!="
  else if operator = "或" then "or"
  else if operator = "且" then "and"
  else operator

def conditionOperators : List (List String) :=
  (wordOperators ++ comparisonSigns).map ([·]) ++
    [["in"], ["not", "in"], ["is"], ["is", "not"], ["not"]]

structure ChainOperator where
  words : List String
  isOperator : words ∈ conditionOperators := by decide

structure ChainOperand where
  text : String
  nonempty : text ≠ "" := by decide
  unbroken : text.toList.all (!isBlank ·) = true := by decide
  notOperator : text ∉ wordOperators ++ comparisonSigns := by decide

/-- A condition in which operators and operands take turns. -/
structure OperatorChain where
  first : ChainOperand
  rest : List (ChainOperator × ChainOperand)

namespace OperatorChain

variable (c : OperatorChain)

def later : List String := c.rest.flatMap fun x => x.1.words ++ [x.2.text]

def args : List String := c.first.text :: c.later

/-- What is to be written for them: a sign for each operator, a value for each operand. -/
def parts : List String :=
  conditionOperand c.first.text ::
    c.rest.flatMap fun x => x.1.words.map signOf ++ [conditionOperand x.2.text]

def last : ChainOperand := (c.rest.getLast?.map Prod.snd).getD c.first

end OperatorChain

def charSigns : List (List Char × List Char) :=
  [(['是'], ['=', '=']), (['或'], ['o', 'r']), (['且'], ['a', 'n', 'd']), (['不', '是'], ['!', '='])]

lemma replaceOperators_eq (cs : List Char) :
    replaceOperators cs =
      charSigns.foldl (fun cs s => replaceAll (spaced s.1) (spaced s.2) cs) cs := rfl

/-- The sign of an operator's word is put in for it, and then stays as it is. -/
lemma operator_word : ∀ o ∈ conditionOperators, ∀ w ∈ o,
    exchanged charSigns w.toList = (signOf w).toList ∧ conditionOperand (signOf w) = signOf w ∧
      ' ' ∉ w.toList ∧ (signOf w).toList ≠ [] ∧ (signOf w).toList.all (!isBlank ·) = true := by
  decide +kernel

/-- An operator that has a sign put in for it is a word by itself. -/
lemma operator_single : ∀ o ∈ conditionOperators, ∀ s ∈ charSigns,
    o.map String.toList = [s.1] ∨ s.1 ∉ o.map String.toList := by
  decide +kernel

namespace ChainOperand

variable (w : ChainOperand)

lemma toList_ne_nil : w.text.toList ≠ [] := by simpa using w.nonempty

lemma noBlank : ∀ c ∈ w.text.toList, isBlank c = false := by simpa using w.unbroken

lemma space_notMem : ' ' ∉ w.text.toList := fun h => absurd (w.noBlank ' ' h) (by decide)

lemma ne_charSigns : ∀ s ∈ charSigns, w.text.toList ≠ s.1 := by
  have hall : ∀ s ∈ charSigns, String.ofList s.1 ∈ wordOperators ++ comparisonSigns := by
    decide +kernel
  intro s hs heq
  refine w.notOperator ?_
  have hmem := hall s hs
  rwa [← heq, String.ofList_toList] at hmem

lemma exchanged_eq : exchanged charSigns w.text.toList = w.text.toList := by
  have hne := w.ne_charSigns
  simp only [charSigns, List.mem_cons, List.not_mem_nil, or_false, forall_eq_or_imp,
    forall_eq] at hne
  simp [exchanged, charSigns, hne]

end ChainOperand

namespace OperatorChain

variable (c : OperatorChain)

lemma mem_later {w : String} (h : w ∈ c.later) :
    (∃ x ∈ c.rest, w ∈ x.1.words) ∨ ∃ x ∈ c.rest, w = x.2.text := by
  obtain ⟨x, hx, hw⟩ := List.mem_flatMap.mp h
  rcases List.mem_append.mp hw with hw | hw
  · exact .inl ⟨x, hx, hw⟩
  · exact .inr ⟨x, hx, by simpa using hw⟩

lemma apart_later {s : List Char × List Char} (hs : s ∈ charSigns) :
    Apart s.1 (c.later.map String.toList) := by
  unfold later
  induction c.rest with
  | nil => trivial
  | cons x xs ih =>
    have hoperand := ih.cons_of_ne (x.2.ne_charSigns s hs)
    rw [List.flatMap_cons, List.map_append, List.map_append, List.append_assoc]
    rcases operator_single x.1.words x.1.isOperator s hs with hsingle | hnone
    · rw [hsingle]
      exact ⟨fun _ => x.2.ne_charSigns s hs, hoperand⟩
    · exact hoperand.append_of_notMem hnone

/-- The replacements put the sign of each operator in its place and leave the operands alone. -/
lemma replaceOperators_args :
    replaceOperators (" ".intercalate c.args).toList =
      [' '].intercalate
        (c.first.text.toList :: (c.later.map String.toList).map (exchanged charSigns)) := by
  have hsigns : ∀ s ∈ charSigns, ' ' ∉ s.1 ∧ ' ' ∉ s.2 ∧ ∀ t ∈ charSigns, s.2 ≠ t.1 := by
    decide +kernel
  have hwords : ∀ w ∈ c.later.map String.toList, ' ' ∉ w := by
    intro v hv
    obtain ⟨w, hw, rfl⟩ := List.mem_map.mp hv
    rcases c.mem_later hw with ⟨x, -, hx⟩ | ⟨x, -, rfl⟩
    · exact (operator_word x.1.words x.1.isOperator w hx).2.2.1
    · exact x.2.space_notMem
  have htext : (" ".intercalate c.args).toList =
      c.first.text.toList ++ trail (c.later.map String.toList) := by
    rw [String.toList_intercalate, args, List.map_cons]
    exact intercalate_cons_eq_trail _ _
  rw [htext, replaceOperators_eq,
    foldl_replaceAll hsigns c.first.space_notMem hwords fun s hs => c.apart_later hs,
    intercalate_cons_eq_trail]

/-- Cutting the text gives the words that were put together. -/
lemma words_replaceOperators :
    words isBlank (replaceOperators (" ".intercalate c.args).toList) =
      c.first.text.toList :: (c.later.map String.toList).map (exchanged charSigns) := by
  rw [c.replaceOperators_args]
  refine words_intercalate fun v hv => ?_
  rcases List.mem_cons.mp hv with rfl | hv
  · exact ⟨c.first.toList_ne_nil, c.first.noBlank⟩
  rw [List.map_map] at hv
  obtain ⟨w, hw, rfl⟩ := List.mem_map.mp hv
  rcases c.mem_later hw with ⟨x, -, hx⟩ | ⟨x, -, rfl⟩
  · obtain ⟨hsign, -, -, hne, hblank⟩ := operator_word x.1.words x.1.isOperator w hx
    rw [Function.comp_apply, hsign]
    exact ⟨hne, by simpa using hblank⟩
  · rw [Function.comp_apply, x.2.exchanged_eq]
    exact ⟨x.2.toList_ne_nil, x.2.noBlank⟩

/-- Putting the signs in and cutting the text again translates the condition word by word. -/
lemma operatorText_args : operatorText (" ".intercalate c.args) = " ".intercalate c.parts := by
  unfold operatorText
  rw [c.words_replaceOperators]
  refine congrArg (" ".intercalate ·) ?_
  rw [List.map_cons, String.ofList_toList, List.map_map, List.map_map, later, List.map_flatMap]
  refine congrArg (conditionOperand c.first.text :: ·) (List.flatMap_congr fun x _ => ?_)
  rw [List.map_append, List.map_singleton]
  congr 1
  · refine List.map_congr_left fun w hw => ?_
    obtain ⟨hsign, hkept, -⟩ := operator_word x.1.words x.1.isOperator w hw
    simp [hsign, hkept]
  · simp [x.2.exchanged_eq]

end OperatorChain

/-! ### Colons at the end -/

def withColons (n : Nat) : List String → List String
  | [] => []
  | [w] => [w ++ String.ofList (List.replicate n ':')]
  | w :: ws => w :: withColons n ws

def EndsPlain (w : String) : Prop := w.toList.getLast? ≠ some ':'

instance (w : String) : Decidable (EndsPlain w) :=
  inferInstanceAs (Decidable (w.toList.getLast? ≠ some ':'))

lemma dropColons_append {w : String} (hw : EndsPlain w) (n : Nat) :
    dropColons (w ++ String.ofList (List.replicate n ':')) = w := by
  have hcolons : ∀ c ∈ List.replicate n ':', (c == ':') = true := by simp
  have hplain : trimEnd (· == ':') w.toList = w.toList := by
    rcases List.eq_nil_or_concat w.toList with hnil | ⟨cs, c, hcs⟩
    · rw [hnil, trimEnd_nil]
    · have hc : c ≠ ':' := by
        rintro rfl
        exact hw (by simp [hcs])
      simp [hcs, trimEnd, hc]
  rw [dropColons, String.toList_append, String.toList_ofList, trimEnd_append_of_blank _ hcolons,
    hplain, String.ofList_toList]

lemma settleArgs_withColons {ws : List String} (h : ∀ w ∈ ws.getLast?, EndsPlain w) (n : Nat) :
    settleArgs (withColons n ws) = ws := by
  fun_induction withColons n ws with
  | case1 => rfl
  | case2 w => simp [settleArgs, dropColons_append (h w (by simp)) n]
  | case3 w ws hne ih =>
    obtain ⟨v, vs, rfl⟩ := List.exists_cons_of_ne_nil fun hnil => hne hnil
    have htail := ih (by simpa using h)
    rcases hcolons : withColons n (v :: vs) with _ | ⟨u, us⟩
    · rw [hcolons] at htail
      cases htail
    · rw [settleArgs, ← hcolons, htail]
      simp

namespace OperatorChain

lemma getLast?_args (c : OperatorChain) : c.args.getLast? = some c.last.text := by
  rcases List.eq_nil_or_concat c.rest with hnil | ⟨xs, x, hxs⟩
  · simp [args, later, last, hnil]
  · have hargs : c.args = c.first.text :: (xs.flatMap fun x => x.1.words ++ [x.2.text]) ++
        x.1.words ++ [x.2.text] := by
      simp [args, later, hxs]
    rw [hargs, List.getLast?_concat]
    simp [last, hxs]

variable {c : OperatorChain}

lemma condition_withColons (h : EndsPlain c.last.text) (n : Nat) :
    condition (withColons n c.args) = settledCondition c.args := by
  rw [condition, settleArgs_withColons]
  simpa [c.getLast?_args] using h

/-! ### Calls -/

/-- The condition is taken for the call of its first operand. -/
structure LooksLikeCall (c : OperatorChain) : Prop where
  operators : c.rest ≠ []
  name : isName c.first.text = true
  neither : ∀ x ∈ c.rest, x.1.words ≠ ["是"] ∧ x.1.words ≠ ["或"]

/-- An operator of the second language is found among the words where it stands as an operator. -/
lemma mem_args_iff {w : String} (hw : w ∈ wordOperators) :
    w ∈ c.args ↔ ∃ x ∈ c.rest, x.1.words = [w] := by
  have hall : ∀ o ∈ conditionOperators, ∀ v ∈ wordOperators, v ∈ o → o = [v] := by decide +kernel
  have hoperand : ∀ v : ChainOperand, w ≠ v.text :=
    fun v heq => v.notOperator (List.mem_append_left _ (heq ▸ hw))
  constructor
  · intro h
    rcases List.mem_cons.mp h with heq | h
    · exact absurd heq (hoperand c.first)
    · rcases c.mem_later h with ⟨x, hx, hword⟩ | ⟨x, hx, heq⟩
      · exact ⟨x, hx, hall _ x.1.isOperator w hw hword⟩
      · exact absurd heq (hoperand x.2)
  · rintro ⟨x, hx, hwords⟩
    exact List.mem_cons_of_mem _ (List.mem_flatMap.mpr ⟨x, hx, by simp [hwords]⟩)

lemma isCallForm_iff : isCallForm c.args = true ↔ c.LooksLikeCall := by
  have his := mem_args_iff (c := c) (w := "是") (by decide)
  have hor := mem_args_iff (c := c) (w := "或") (by decide)
  rcases hrest : c.rest with _ | ⟨x, xs⟩
  · have hargs : c.args = [c.first.text] := by simp [args, later, hrest]
    rw [hargs]
    exact iff_of_false (by simp [isCallForm]) fun h => h.operators hrest
  · obtain ⟨v, vs, hlater⟩ : ∃ v vs, c.later = v :: vs :=
      List.exists_cons_of_ne_nil (by simp [later, hrest])
    have hform : isCallForm c.args =
        (isName c.first.text && !c.args.contains "是" && !c.args.contains "或") := by
      rw [args, hlater]
      rfl
    simp only [hform, Bool.and_eq_true, Bool.not_eq_true', List.contains_eq_mem,
      decide_eq_false_iff_not, his, hor, not_exists, not_and]
    constructor
    · rintro ⟨⟨hname, his⟩, hor⟩
      exact ⟨by simp [hrest], hname, fun y hy => ⟨his y hy, hor y hy⟩⟩
    · rintro ⟨-, hname, hneither⟩
      exact ⟨⟨hname, fun y hy => (hneither y hy).1⟩, fun y hy => (hneither y hy).2⟩

lemma settledCondition_of_call (h : c.LooksLikeCall) :
    settledCondition c.args = callText c.first.text c.later := by
  rw [settledCondition, if_pos (isCallForm_iff.mpr h)]
  rfl

lemma settledCondition_of_not_call (h : ¬ c.LooksLikeCall) :
    settledCondition c.args = " ".intercalate c.parts := by
  rw [settledCondition, if_neg (mt isCallForm_iff.mp h), c.operatorText_args]

end OperatorChain

def renamedWords : List String := ["真", "假", "quit", "exit"]

lemma conditionOperand_cases {w : String} (hname : isName w = true) :
    conditionOperand w = w ∨ w ∈ renamedWords := by
  by_cases hmem : w ∈ renamedWords
  · exact .inr hmem
  left
  simp only [renamedWords, List.mem_cons, List.not_mem_nil, or_false, not_or] at hmem
  obtain ⟨htrue, hfalse, hquit, hexit⟩ := hmem
  have hne : w ≠ "" := by
    rintro rfl
    exact absurd hname (by decide)
  have hquitting : w ∉ quittingWords := by simp [quittingWords, hquit, hexit]
  have hvalue : (constant? w).getD w = w := by
    unfold constant?
    split_ifs <;> simp_all
  unfold conditionOperand
  rcases hconstant : constant? w with _ | k
  · simp [hne, hname, hquitting]
  · rw [hconstant] at hvalue
    simpa [hne] using hvalue

/-- A call has a bracket after its first word, and a chain of operators a space. -/
lemma callText_ne {f : String} (hname : isName f = true) (args : List String) (more : String) :
    callText f args ≠ conditionOperand f ++ " " ++ more := by
  intro heq
  have hchars : f.toList ++ '(' :: (", ".intercalate (args.map operand) ++ ")").toList =
      (conditionOperand f).toList ++ ' ' :: more.toList := by
    have := congrArg String.toList heq
    simpa [callText] using this
  rcases conditionOperand_cases hname with hself | hmem
  · rw [hself] at hchars
    exact absurd (List.cons.inj (List.append_cancel_left hchars)).1 (by decide)
  · -- here the operand is written otherwise from its first character on
    have hall : ∀ w ∈ renamedWords, w.toList.head? ≠ none ∧
        (conditionOperand w).toList.head? ≠ none ∧
          w.toList.head? ≠ (conditionOperand w).toList.head? := by decide +kernel
    obtain ⟨hleft, hright, hne⟩ := hall f hmem
    obtain ⟨a, ha⟩ := Option.ne_none_iff_exists'.mp hleft
    obtain ⟨b, hb⟩ := Option.ne_none_iff_exists'.mp hright
    have hhead := congrArg List.head? hchars
    rw [List.head?_append, List.head?_append, ha, hb] at hhead
    rw [ha, hb] at hne
    exact hne (by simpa using hhead)

lemma OperatorChain.callText_ne_parts {c : OperatorChain} (h : c.LooksLikeCall) :
    callText c.first.text c.later ≠ " ".intercalate c.parts := by
  have hlater : c.rest.flatMap (fun x => x.1.words.map signOf ++ [conditionOperand x.2.text]) ≠
      [] := by
    obtain ⟨x, xs, hx⟩ := List.exists_cons_of_ne_nil h.operators
    simp [hx]
  obtain ⟨v, vs, hparts⟩ := List.exists_cons_of_ne_nil hlater
  rw [parts, hparts, String.intercalate_cons_cons]
  exact callText_ne h.name c.later _

/-- **Translation of conditions**: a condition in which operators and operands take turns, with any
number of colons after it, is written word by word, a sign for each operator and a value for each
operand, unless it is taken for a call. -/
theorem condition_translates (c : OperatorChain) (h : EndsPlain c.last.text) (n : Nat)
    (hcall : ¬ c.LooksLikeCall) :
    condition (withColons n c.args) = " ".intercalate c.parts := by
  rw [OperatorChain.condition_withColons h, OperatorChain.settledCondition_of_not_call hcall]

/-- All operators of the second language, among words that they are parts of. -/
theorem mixedChain_translated :
    ∃ c : OperatorChain,
      c.args = ["是非", "是", "quit", "或", "y", "不是", "a是", "且", "真", "not", "in", "是:", ">=",
        "-1"] ∧
      EndsPlain c.last.text ∧ ¬ c.LooksLikeCall ∧
      condition (withColons 2 c.args) =
        "是非 == \"quit\" or y != a是 and True not in \"是:\" >= -1" := by
  refine ⟨⟨.mk "是非",
    [(.mk ["是"], .mk "quit"), (.mk ["或"], .mk "y"), (.mk ["不是"], .mk "a是"),
      (.mk ["且"], .mk "真"), (.mk ["not", "in"], .mk "是:"), (.mk [">="], .mk "-1")]⟩,
    rfl, ?last, ?call, (condition_translates _ ?last 2 ?call).trans ?text⟩
  case last => decide +kernel
  case call => exact fun h => (h.neither _ (List.mem_cons_self ..)).1 rfl
  case text => decide +kernel

/-- **Conditions taken for calls**: a condition with an operator is written as operands and signs in
their order if and only if one of its operators is `是` or `或` or its first operand is no name.
Otherwise it is written as a call of the first operand with all other words as arguments. -/
theorem condition_inOrder_iff (c : OperatorChain) (hrest : c.rest ≠ [])
    (h : EndsPlain c.last.text) (n : Nat) :
    (condition (withColons n c.args) = " ".intercalate c.parts ↔
      (∃ x ∈ c.rest, x.1.words = ["是"] ∨ x.1.words = ["或"]) ∨ isName c.first.text = false) ∧
    (condition (withColons n c.args) ≠ " ".intercalate c.parts →
      condition (withColons n c.args) = callText c.first.text c.later) := by
  rw [OperatorChain.condition_withColons h]
  by_cases hcall : c.LooksLikeCall
  · rw [OperatorChain.settledCondition_of_call hcall]
    refine ⟨iff_of_false (OperatorChain.callText_ne_parts hcall) ?_, fun _ => rfl⟩
    rintro (⟨x, hx, hword⟩ | hname)
    · exact absurd hword (not_or.mpr (hcall.neither x hx))
    · exact absurd hcall.name (by simp [hname])
  · rw [OperatorChain.settledCondition_of_not_call hcall]
    refine ⟨iff_of_true rfl ?_, fun hne => absurd rfl hne⟩
    by_contra hneither
    obtain ⟨hoperators, hname⟩ := not_or.mp hneither
    refine hcall ⟨hrest, by simpa using hname, fun x hx => ?_⟩
    exact not_or.mp fun hword => hoperators ⟨x, hx, hword⟩

/-- Here the third operator keeps the condition from being taken for a call. -/
theorem threeOperators_inOrder :
    ∃ c : OperatorChain, c.args = ["x", "!=", "3", "且", "y", "是", "4"] ∧ c.rest ≠ [] ∧
      EndsPlain c.last.text ∧ isName c.first.text = true ∧
      condition (withColons 1 c.args) = " ".intercalate c.parts ∧
      " ".intercalate c.parts = "x != 3 and y == 4" := by
  refine ⟨⟨.mk "x", [(.mk ["!="], .mk "3"), (.mk ["且"], .mk "y"), (.mk ["是"], .mk "4")]⟩,
    rfl, ?rest, ?last, ?name, (condition_inOrder_iff _ ?rest ?last 1).1.mpr ?operator, ?text⟩
  case rest => simp
  case last => decide +kernel
  case name => decide +kernel
  case operator => exact .inl ⟨_, List.mem_cons_of_mem _ (List.mem_cons_of_mem _
    (List.mem_cons_self ..)), .inl rfl⟩
  case text => decide +kernel

/-- A comparison is called, with its operator for an argument. -/
theorem comparison_called :
    ∃ c : OperatorChain, c.args = ["x", ">", "1"] ∧ c.rest ≠ [] ∧ EndsPlain c.last.text ∧
      " ".intercalate c.parts = "x > 1" ∧ condition c.args = "x(\">\", 1)" ∧
      condition c.args ≠ " ".intercalate c.parts := by
  refine ⟨⟨.mk "x", [(.mk [">"], .mk "1")]⟩, rfl, by simp, by decide +kernel, ?_⟩
  refine ⟨?_, ?_, ?_⟩ <;> decide +kernel

end Flowline
