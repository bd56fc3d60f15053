import Mathlib.Tactic.Lemma
import Flowline.Emit.Compile
import Flowline.Proofs.Grammar
import Flowline.Proofs.Words

/-!
The characters of a generated line.

The arguments of a line are words: they are not empty, and no blank and no hash stands in them. What
is put around them has no blank but spaces and no hash. So the code of a line breaks no line and
holds no comment; it begins with a character of its own, and with its keyword if it opens a block.
-/

namespace Flowline

open Text

/-! ### Words of a source -/

structure IsWord (w : String) : Prop where
  nonempty : w.toList ≠ []
  chars : ∀ c ∈ w.toList, isBlank c = false ∧ c ≠ '#'

lemma mem_splitOnP {p : Char → Bool} {cs w : List Char} (h : w ∈ cs.splitOnP p) :
    ∀ c ∈ w, p c = false ∧ c ∈ cs := by
  induction cs generalizing w with
  | nil => simp_all [List.splitOnP_nil]
  | cons d cs ih =>
    have htail : ∀ v ∈ cs.splitOnP p, ∀ c ∈ v, p c = false ∧ c ∈ d :: cs :=
      fun v hv c hc => (ih hv c hc).imp_right (List.mem_cons_of_mem d)
    rw [List.splitOnP_cons_eq_if_modifyHead] at h
    split_ifs at h with hd
    · rcases List.mem_cons.mp h with rfl | h
      · simp
      · exact htail w h
    · rcases hsplit : cs.splitOnP p with _ | ⟨first, others⟩
      · simp [hsplit] at h
      rw [hsplit] at h htail
      rcases List.mem_cons.mp h with rfl | h
      · rintro c (_ | ⟨_, hc⟩)
        · exact ⟨by simpa using hd, by simp⟩
        · exact htail first (by simp) c hc
      · exact htail w (List.mem_cons_of_mem first h)

lemma mem_words {p : Char → Bool} {cs w : List Char} (h : w ∈ words p cs) :
    w ≠ [] ∧ ∀ c ∈ w, p c = false ∧ c ∈ cs := by
  obtain ⟨hsplit, hne⟩ := List.mem_filter.mp h
  exact ⟨by simpa using hne, mem_splitOnP hsplit⟩

lemma isWord_of_mem_words {line w : List Char} (h : w ∈ words isBlank (beforeHash line)) :
    IsWord (String.ofList w) := by
  obtain ⟨hne, hchars⟩ := mem_words h
  refine ⟨by simpa using hne, fun c hc => ?_⟩
  rw [String.toList_ofList] at hc
  obtain ⟨hblank, hmem⟩ := hchars c hc
  exact ⟨hblank, fun heq => notMem_beforeHash line (heq ▸ hmem)⟩

lemma Token.mem_of_ofWords {ws : List String} {t : Token} (h : Token.ofWords ws = some t) :
    t.action ∈ ws ∧ ∀ w ∈ t.args, w ∈ ws := by
  rcases Token.ofWords_eq_some_iff.mp h with ⟨rfl, -⟩ | ⟨rfl, -, -⟩ <;> simp +contextual

/-- The token of a line is made of words. -/
lemma readLine_isWord {b : Bool} {line : List Char} {t : Token}
    (h : (readLine isBlank b line).2.token = some t) :
    IsWord t.action ∧ ∀ w ∈ t.args, IsWord w := by
  by_cases hfence : trim isBlank line = ['~', '~']
  · simp [readLine, hfence, Reading.nothing] at h
  cases b with
  | true => simp [readLine, hfence, Reading.nothing] at h
  | false =>
    rw [(readLine_eq_words (by decide) hfence).2] at h
    have hword : ∀ w ∈ (words isBlank (beforeHash line)).map String.ofList, IsWord w := by
      intro w hw
      obtain ⟨v, hv, rfl⟩ := List.mem_map.mp hw
      exact isWord_of_mem_words hv
    obtain ⟨haction, hargs⟩ := Token.mem_of_ofWords h
    exact ⟨hword _ haction, fun w hw => hword w (hargs w hw)⟩

lemma readLines_isWord {b : Bool} {lines : List (List Char)} {r : Reading}
    (hr : r ∈ readLines isBlank b lines) {t : Token} (ht : r.token = some t) :
    IsWord t.action ∧ ∀ w ∈ t.args, IsWord w := by
  induction lines generalizing b with
  | nil => simp at hr
  | cons line lines ih =>
    rw [readLines_cons] at hr
    rcases List.mem_cons.mp hr with rfl | hr
    · exact readLine_isWord ht
    · exact ih hr

lemma exists_token {ts : List Token} {ss : List Statement} (h : List.Forall₂ Token.Writes ts ss)
    {s : Statement} (hs : s ∈ ss) : ∃ t ∈ ts, t.Writes s := by
  induction h with
  | nil => simp at hs
  | cons hwrites _ ih =>
    rcases List.mem_cons.mp hs with rfl | hs
    · exact ⟨_, by simp, hwrites⟩
    · obtain ⟨t, ht, hwrites'⟩ := ih hs
      exact ⟨t, List.mem_cons_of_mem _ ht, hwrites'⟩

/-- The arguments of the lines of a parsed source are words. -/
lemma args_isWord {source : String} {p : Program Statement} (hp : parse source = .ok p)
    {a : Action} {args : List String} {state : String} (h : .line a args state ∈ p.statements) :
    ∀ w ∈ args, IsWord w := by
  obtain ⟨t, ht, hwrites⟩ := exists_token (writes_statements hp) h
  obtain ⟨x, hx, rfl⟩ := List.mem_map.mp ht
  obtain ⟨y, hy, hxy⟩ := List.mem_filterMap.mp hx
  obtain ⟨u, hu, rfl⟩ := Option.map_eq_some_iff.mp hxy
  have hwords := (readLines_isWord (List.fst_mem_of_mem_zipIdx hy) hu).2
  cases hwrites with
  | clause => simp
  | line => exact hwords

/-! ### Texts within a line -/

/-- A space, or neither a blank nor a hash. -/
def isInline (c : Char) : Bool := c == ' ' || (!isBlank c && c != '#')

def Inline (s : String) : Prop := s.toList.all isInline = true

instance (s : String) : Decidable (Inline s) := inferInstanceAs (Decidable (_ = true))

lemma Inline.of_subset {s t : String} (h : Inline t) (hs : ∀ c ∈ s.toList, c ∈ t.toList) :
    Inline s :=
  List.all_eq_true.mpr fun c hc => List.all_eq_true.mp h c (hs c hc)

lemma IsWord.inline {w : String} (h : IsWord w) : Inline w :=
  List.all_eq_true.mpr fun c hc => by simp [isInline, h.chars c hc]

@[simp] lemma inline_append {s t : String} : Inline (s ++ t) ↔ Inline s ∧ Inline t := by
  simp [Inline, List.all_append]

lemma inline_intercalate {sep : String} {ss : List String} (hsep : Inline sep)
    (hss : ∀ s ∈ ss, Inline s) : Inline (sep.intercalate ss) := by
  induction ss with
  | nil => simpa using (by decide : Inline "")
  | cons s ss ih =>
    have hs := hss s (by simp)
    have htail := ih fun t ht => hss t (List.mem_cons_of_mem s ht)
    cases ss with
    | nil => simpa using hs
    | cons t ts => simp_all

lemma inline_dropColons {w : String} (h : Inline w) : Inline (dropColons w) := by
  refine h.of_subset fun c hc => ?_
  rw [dropColons, String.toList_ofList] at hc
  exact mem_of_mem_trimEnd hc

lemma inline_constant? {w c : String} (h : constant? w = some c) : Inline c := by
  unfold constant? at h
  split_ifs at h <;> obtain rfl := Option.some.inj h <;> decide

lemma inline_enquote {s : String} (h : Inline s) : Inline (enquote s) := by
  simp [enquote, h, (by decide : Inline "\"")]

lemma inline_operand {w : String} (h : Inline w) : Inline (operand w) := by
  unfold operand
  split
  · decide
  · split
    · next hc => exact inline_constant? hc
    · split
      · exact h
      · exact inline_enquote h

lemma inline_conditionOperand {w : String} (h : Inline w) : Inline (conditionOperand w) := by
  unfold conditionOperand
  split
  · decide
  · split
    · next hc => exact inline_constant? hc
    · split_ifs
      · exact h
      · exact h
      · exact inline_enquote h

lemma inline_operands {args : List String} (h : ∀ w ∈ args, Inline w) :
    Inline (", ".intercalate (args.map operand)) := by
  refine inline_intercalate (by decide) fun w hw => ?_
  obtain ⟨v, hv, rfl⟩ := List.mem_map.mp hw
  exact inline_operand (h v hv)

lemma inline_callText {f : String} {args : List String} (hf : Inline f)
    (hargs : ∀ w ∈ args, Inline w) : Inline (callText f args) := by
  simp [callText, hf, inline_operands hargs, (by decide : Inline "(" ∧ Inline ")")]

lemma inline_settleArgs {args : List String} (h : ∀ w ∈ args, Inline w) :
    ∀ w ∈ settleArgs args, Inline w := by
  induction args with
  | nil => exact h
  | cons v vs ih =>
    have hv := h v (by simp)
    have htail := ih fun w hw => h w (List.mem_cons_of_mem v hw)
    cases vs with
    | nil => simpa [settleArgs] using inline_dropColons hv
    | cons u us =>
      rintro w (_ | ⟨_, hw⟩)
      · exact hv
      · exact htail w hw

lemma mem_replaceFrom {old new cs : List Char} {k : Nat} {c : Char}
    (h : c ∈ replaceFrom old new k cs) : c ∈ new ∨ c ∈ cs := by
  fun_induction replaceFrom old new k cs with
  | case1 => simp at h
  | case2 k d cs ih => exact (ih h).imp_right (List.mem_cons_of_mem d)
  | case3 d cs hprefix ih =>
    rcases List.mem_append.mp h with h | h
    · exact .inl h
    · exact (ih h).imp_right (List.mem_cons_of_mem d)
  | case4 d cs hprefix ih =>
    rcases List.mem_cons.mp h with rfl | h
    · simp
    · exact (ih h).imp_right (List.mem_cons_of_mem d)

lemma isInline_replaceOperators {cs : List Char} (h : ∀ c ∈ cs, isInline c = true) :
    ∀ c ∈ replaceOperators cs, isInline c = true := by
  have hnew : ∀ x ∈ operatorWords, Inline x.2 := by decide
  unfold replaceOperators
  revert hnew
  generalize operatorWords = signs
  intro hnew
  induction signs generalizing cs with
  | nil => exact h
  | cons x xs ih =>
    refine ih (fun c hc => ?_) fun y hy => hnew y (List.mem_cons_of_mem x hy)
    rcases mem_replaceFrom hc with hc | hc
    · exact List.all_eq_true.mp (hnew x (by simp)) c hc
    · exact h c hc

lemma inline_operatorText {text : String} (h : Inline text) : Inline (operatorText text) := by
  refine inline_intercalate (by decide) fun v hv => ?_
  obtain ⟨w, hw, rfl⟩ := List.mem_map.mp hv
  refine inline_conditionOperand (List.all_eq_true.mpr fun c hc => ?_)
  rw [String.toList_ofList] at hc
  exact isInline_replaceOperators (List.all_eq_true.mp h) c ((mem_words hw).2 c hc).2

lemma inline_settledCondition {args : List String} (h : ∀ w ∈ args, Inline w) :
    Inline (settledCondition args) := by
  unfold settledCondition
  split
  · rcases args with _ | ⟨f, ws⟩
    · exact inline_callText (by decide) (by simp)
    · exact inline_callText (h f (by simp)) fun w hw => h w (List.mem_cons_of_mem f hw)
  · exact inline_operatorText (inline_intercalate (by decide) h)

lemma inline_textLiteral {args : List String} (h : ∀ w ∈ args, Inline w) :
    Inline (textLiteral args) := by
  have hjoined : Inline (" ".intercalate args) := inline_intercalate (by decide) h
  refine inline_enquote (List.all_eq_true.mpr fun c hc => ?_)
  rw [String.toList_ofList, escapeText, List.mem_flatMap] at hc
  obtain ⟨d, hd, hc⟩ := hc
  have hd := List.all_eq_true.mp hjoined d hd
  split_ifs at hc
  · rcases List.mem_cons.mp hc with rfl | hc
    · decide
    · rw [List.mem_singleton.mp hc]
      exact hd
  · rw [List.mem_singleton.mp hc]
    exact hd

lemma inline_assignedText {word : String} {rest : List String} (hword : Inline word)
    (hrest : ∀ w ∈ rest, Inline w) {text : String} (h : assignedText word rest = .ok text) :
    Inline text := by
  unfold assignedText at h
  split at h
  · obtain rfl := Except.ok.inj h
    split_ifs
    · exact inline_append.mpr ⟨hword, by decide⟩
    · exact inline_operand hword
  · split at h
    · cases h
    · obtain rfl := Except.ok.inj h
      exact inline_callText hword hrest
  · next x y rest =>
    split at h
    · next op hop =>
      split_ifs at h
      obtain rfl := Except.ok.inj h
      have hsign : Inline (op.sign?.getD "") := by cases op <;> decide
      have hoperands : Inline (operand x) ∧ Inline (operand y) :=
        ⟨inline_operand (hrest x (by simp)), inline_operand (hrest y (by simp))⟩
      simp [hsign, hoperands, (by decide : Inline " ")]
    · obtain rfl := Except.ok.inj h
      exact inline_callText hword hrest

/-! ### The code of a line -/

/-- The text of a line: it stays within the line and begins with a character of its own. -/
structure IsLineText (s : String) : Prop where
  inline : Inline s
  begins : s.toList.head?.any (fun c => !isBlank c && c != '#') = true

lemma IsWord.isLineText {w : String} (h : IsWord w) : IsLineText w := by
  refine ⟨h.inline, ?_⟩
  obtain ⟨c, cs, hcons⟩ := List.exists_cons_of_ne_nil h.nonempty
  simp [hcons, h.chars c (by simp [hcons])]

lemma IsLineText.append {s t : String} (hs : IsLineText s) (ht : Inline t) :
    IsLineText (s ++ t) := by
  refine ⟨inline_append.mpr ⟨hs.inline, ht⟩, ?_⟩
  have hbegins := hs.begins
  rcases hcons : s.toList with _ | ⟨c, cs⟩
  · simp [hcons] at hbegins
  · simpa [hcons] using hbegins

/-- The result is the text of a line, if there is one. -/
def GivesLine (r : Except EmitError String) : Prop := ∀ text, r = .ok text → IsLineText text

lemma givesLine_ok {s : String} (h : IsLineText s) : GivesLine (.ok s) := by
  rintro text ⟨⟩
  exact h

lemma givesLine_error (e : EmitError) : GivesLine (.error e) := fun _ h => nomatch h

section

variable {args : List String} (hargs : ∀ w ∈ args, IsWord w)

include hargs

lemma printCode_isLineText : IsLineText (printCode args) := by
  have hopen : IsLineText "print(" := ⟨by decide, by decide⟩
  have htext : Inline (textLiteral args) := inline_textLiteral fun w hw => (hargs w hw).inline
  unfold printCode
  split
  · exact ⟨by decide, by decide⟩
  · split
    · exact (hopen.append (hargs _ (by simp)).inline).append (by decide)
    · exact (hopen.append htext).append (by decide)
  · exact (hopen.append htext).append (by decide)

lemma returnCode_isLineText : IsLineText (returnCode args) := by
  unfold returnCode
  split
  · exact ⟨by decide, by decide⟩
  · refine IsLineText.append ⟨by decide, by decide⟩ (inline_operand ?_)
    exact inline_intercalate (by decide) fun w hw => (hargs w hw).inline

lemma callCode_givesLine : GivesLine (callCode args) := by
  unfold callCode
  split
  · exact givesLine_error _
  · next f ws =>
    have hjoined := inline_operands fun w hw => (hargs w (List.mem_cons_of_mem f hw)).inline
    have hf := (hargs f (by simp)).isLineText
    exact givesLine_ok (((hf.append (by decide)).append hjoined).append (by decide))

lemma arithmeticCode_givesLine {sign : String} (hsign : Inline sign) :
    GivesLine (arithmeticCode sign args) := by
  unfold arithmeticCode
  split
  · next result left right =>
    split_ifs
    · have hresult := (hargs result (by simp)).isLineText
      have hleft := inline_operand (hargs left (by simp)).inline
      have hright := inline_operand (hargs right (by simp)).inline
      exact givesLine_ok (((((hresult.append (by decide)).append hleft).append (by decide)).append
        hsign).append (by decide) |>.append hright)
    · exact givesLine_error _
  · exact givesLine_error _

lemma defineCode_givesLine : GivesLine (defineCode args) := by
  unfold defineCode
  split
  · exact givesLine_error _
  · next f params =>
    have hparams : Inline (", ".intercalate (params.map dropColons)) := by
      refine inline_intercalate (by decide) fun w hw => ?_
      obtain ⟨v, hv, rfl⟩ := List.mem_map.mp hw
      exact inline_dropColons (hargs v (List.mem_cons_of_mem f hv)).inline
    have hopen : IsLineText ("def " ++ dropColons f) :=
      IsLineText.append ⟨by decide, by decide⟩ (inline_dropColons (hargs f (by simp)).inline)
    exact givesLine_ok (((hopen.append (by decide)).append hparams).append (by decide))

lemma loopCode_givesLine : GivesLine (loopCode args) := by
  unfold loopCode
  split
  · next var second third rest =>
    have hopen : IsLineText ("for " ++ var) :=
      IsLineText.append ⟨by decide, by decide⟩ (hargs var (by simp)).inline
    refine givesLine_ok (((hopen.append (by decide)).append ?_).append (by decide))
    refine inline_dropColons (inline_intercalate (by decide) fun w hw => (hargs w ?_).inline)
    split_ifs at hw
    · exact List.mem_cons_of_mem var (List.mem_cons_of_mem second hw)
    · exact List.mem_cons_of_mem var hw
  · exact givesLine_error _

lemma exceptCode_isLineText : IsLineText (exceptCode args) := by
  unfold exceptCode
  split
  · exact ⟨by decide, by decide⟩
  · next word ws =>
    have hname : Inline (errorName (dropColons word)) := by
      unfold errorName
      split_ifs
      · decide
      · decide
      · exact inline_dropColons (hargs word (by simp)).inline
    exact (IsLineText.append ⟨by decide, by decide⟩ hname).append (by decide)

lemma conditionCode_givesLine (action : Action) {keyword : String} (hkeyword : IsLineText keyword) :
    GivesLine (conditionCode action keyword args) := by
  unfold conditionCode
  split
  · exact givesLine_error _
  · have hcondition : Inline (condition args) :=
      inline_settledCondition (inline_settleArgs fun w hw => (hargs w hw).inline)
    exact givesLine_ok (((hkeyword.append (by decide)).append hcondition).append (by decide))

lemma setCode_givesLine : GivesLine (setCode args) := by
  unfold setCode
  split
  · next name word rest =>
    split_ifs
    · rcases hassigned : assignedText word rest with e | assigned
      · exact givesLine_error e
      · have hname := (hargs name (by simp)).isLineText
        have hinline : Inline assigned := by
          refine inline_assignedText (hargs word (by simp)).inline (fun w hw => ?_) hassigned
          exact (hargs w (List.mem_cons_of_mem name (List.mem_cons_of_mem word hw))).inline
        exact givesLine_ok ((hname.append (by decide)).append hinline)
    · exact givesLine_error _
  · exact givesLine_error _

/-- The code of a line whose arguments are words is the text of a line. -/
lemma code_givesLine (a : Action) : GivesLine (a.code args) := by
  cases a with
  | print => exact givesLine_ok (printCode_isLineText hargs)
  | set => exact setCode_givesLine hargs
  | call => exact callCode_givesLine hargs
  | define => exact defineCode_givesLine hargs
  | giveBack => exact givesLine_ok (returnCode_isLineText hargs)
  | for_ => exact loopCode_givesLine hargs
  | except => exact givesLine_ok (exceptCode_isLineText hargs)
  | if_ | elif | while_ => exact conditionCode_givesLine hargs _ ⟨by decide, by decide⟩
  | add | sub | mul | div => exact arithmeticCode_givesLine hargs (by decide)
  | else_ | break_ | continue_ | try_ | finally_ | pass =>
    exact givesLine_ok ⟨by decide, by decide⟩

end

end Flowline
