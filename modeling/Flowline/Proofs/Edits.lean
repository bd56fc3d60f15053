import Mathlib.Data.List.Basic
import Mathlib.Tactic.Lemma
import Flowline.Editor.Document
import Flowline.Proofs.Words

/-!
Edits made in a document.

An edit takes the text of a range out and puts another in; the lines are found again in what is
left. An unbroken text comes between what an edit leaves of the lines in which it begins and ends, and
an edit of a whole line changes that line and no other. Edits that come from one look at a document are
made from the last to the first, so that none moves the place of another.
-/

namespace Flowline.Editor

open Text

def Edit.range : Edit → Range
  | .insert p _ => .at_ p
  | .replace r _ => r

def Edit.text : Edit → List Char
  | .insert _ t => t
  | .replace _ t => t

namespace Document

def stop (d : Document) : Position :=
  ⟨d.lines.length - 1, units (d.lineD (d.lines.length - 1))⟩

def edited (d : Document) (e : Edit) : Document :=
  { d with
    lines := documentLines
      (d.slice ⟨⟨0, 0⟩, e.range.start⟩ ++ e.text ++ d.slice ⟨e.range.stop, d.stop⟩) }

/-- The document after edits whose places are all meant in the document as it is. -/
def editedAll (d : Document) (es : List Edit) : Document := es.foldr (fun e d => d.edited e) d

end Document

/-! ### Lines joined and found again -/

def Unbroken (cs : List Char) : Prop := '\n' ∉ cs ∧ '\r' ∉ cs

lemma Unbroken.append {cs ds : List Char} (hc : Unbroken cs) (hd : Unbroken ds) :
    Unbroken (cs ++ ds) :=
  ⟨by simp [hc.1, hd.1], by simp [hc.2, hd.2]⟩

lemma Unbroken.of_subset {cs ds : List Char} (h : Unbroken ds) (hs : ∀ c ∈ cs, c ∈ ds) :
    Unbroken cs :=
  ⟨fun hm => h.1 (hs _ hm), fun hm => h.2 (hs _ hm)⟩

lemma joinWith_append_cons (sep : List Char) (xs : List (List Char)) (l : List Char)
    (ys : List (List Char)) :
    joinWith sep (xs ++ l :: ys) = xs.flatMap (· ++ sep) ++ l ++ ys.flatMap (sep ++ ·) := by
  have htail : ∀ m : List Char, joinWith sep (m :: ys) = m ++ ys.flatMap (sep ++ ·) := by
    induction ys with
    | nil => simp [joinWith]
    | cons y ys ih =>
      intro m
      simp [joinWith, ih y]
  induction xs with
  | nil => simpa using htail l
  | cons x xs ih =>
    obtain ⟨z, zs, hz⟩ : ∃ z zs, xs ++ l :: ys = z :: zs := by
      rcases xs with _ | ⟨z, zs⟩
      · exact ⟨l, ys, rfl⟩
      · exact ⟨z, zs ++ l :: ys, rfl⟩
    have hjoin : joinWith sep (x :: (xs ++ l :: ys)) =
        x ++ sep ++ joinWith sep (xs ++ l :: ys) := by
      rw [hz]
      rfl
    rw [List.cons_append, hjoin, ih]
    simp

lemma pieces_append_feed {brk : Char → Bool} (hfeed : brk '\n' = true) {l : List Char}
    (hl : ∀ c ∈ l, brk c = false) (hreturn : '\r' ∉ l) (cs : List Char) :
    pieces brk (l ++ '\n' :: cs) = l :: pieces brk cs := by
  induction l with
  | nil => simp [pieces, hfeed]
  | cons c l ih =>
    have hc : c ≠ '\r' := fun hc => hreturn (by simp [hc])
    have htail := ih (fun e he => hl e (List.mem_cons_of_mem c he))
      fun hm => hreturn (List.mem_cons_of_mem c hm)
    simp [pieces, hc, hl c, htail]

lemma pieces_joinWith {brk : Char → Bool} (hfeed : brk '\n' = true) {ls : List (List Char)}
    (hne : ls ≠ []) (hl : ∀ l ∈ ls, (∀ c ∈ l, brk c = false) ∧ '\r' ∉ l) :
    pieces brk (joinWith ['\n'] ls) = ls := by
  induction ls with
  | nil => exact absurd rfl hne
  | cons l ls ih =>
    obtain ⟨hchars, hreturn⟩ := hl l (by simp)
    rcases ls with _ | ⟨m, ms⟩
    · exact pieces_of_forall_not hchars hreturn
    · have htail := ih (by simp) fun k hk => hl k (List.mem_cons_of_mem l hk)
      have hjoin : joinWith ['\n'] (l :: m :: ms) = l ++ '\n' :: joinWith ['\n'] (m :: ms) := by
        simp [joinWith]
      rw [hjoin, pieces_append_feed hfeed hchars hreturn, htail]

lemma documentLines_joinWith {ls : List (List Char)} (hne : ls ≠ [])
    (hl : ∀ l ∈ ls, Unbroken l) : documentLines (joinWith ['\n'] ls) = ls := by
  refine pieces_joinWith (by decide) hne fun l hm => ⟨fun c hc => ?_, (hl l hm).2⟩
  have hfeed : c ≠ '\n' := fun h => (hl l hm).1 (h ▸ hc)
  have hreturn : c ≠ '\r' := fun h => (hl l hm).2 (h ▸ hc)
  simp [hfeed, hreturn]

lemma editorLines_joinWith {ls : List (List Char)} (hne : ls ≠ [])
    (hl : ∀ l ∈ ls, Unbroken l) : editorLines (joinWith ['\n'] ls) = ls := by
  refine pieces_joinWith (by decide) hne fun l hm => ⟨fun c hc => ?_, (hl l hm).2⟩
  have hfeed : c ≠ '\n' := fun h => (hl l hm).1 (h ▸ hc)
  simp [hfeed]

lemma not_brk_of_mem_pieces {brk : Char → Bool} {cs line : List Char}
    (hl : line ∈ pieces brk cs) : ∀ c ∈ line, brk c = false := by
  fun_induction pieces brk cs generalizing line with
  | case1 => simp_all
  | case2 cs ih =>
    rcases List.mem_cons.mp hl with rfl | hl'
    · simp
    · exact ih hl'
  | case3 d cs hne hbrk ih =>
    rcases List.mem_cons.mp hl with rfl | hl'
    · simp
    · exact ih hl'
  | case4 d cs hne hbrk ih =>
    rcases hp : pieces brk cs with _ | ⟨first, others⟩
    · exact absurd hp (pieces_ne_nil brk cs)
    · rw [hp] at hl ih
      rw [List.modifyHead_cons] at hl
      rcases List.mem_cons.mp hl with rfl | hl'
      · intro c hc
        rcases List.mem_cons.mp hc with rfl | hc'
        · simpa using hbrk
        · exact ih (List.mem_cons_self ..) c hc'
      · exact ih (List.mem_cons_of_mem first hl')

/-! ### Columns -/

lemma charUnits_pos (c : Char) : 0 < charUnits c := by
  unfold charUnits
  split <;> omega

@[simp] lemma takeUnits_zero (cs : List Char) : takeUnits 0 cs = [] := by
  rcases cs with _ | ⟨c, cs⟩
  · rfl
  · have := charUnits_pos c
    rw [takeUnits, if_neg (by omega)]

@[simp] lemma dropUnits_zero (cs : List Char) : dropUnits 0 cs = cs := by
  have := takeUnits_append_dropUnits 0 cs
  simpa using this

lemma units_takeUnits_le (n : Nat) (cs : List Char) : units (takeUnits n cs) ≤ n := by
  induction cs generalizing n with
  | nil => exact Nat.zero_le n
  | cons c cs ih =>
    rw [takeUnits]
    split_ifs with hc
    · have := ih (n - charUnits c)
      rw [units_cons]
      omega
    · exact Nat.zero_le n

lemma takeUnits_units_append (xs ys : List Char) : takeUnits (units xs) (xs ++ ys) = xs := by
  induction xs with
  | nil => simp
  | cons c xs ih => simp [takeUnits, ih]

lemma dropUnits_units_append (xs ys : List Char) : dropUnits (units xs) (xs ++ ys) = ys := by
  have h := takeUnits_append_dropUnits (units xs) (xs ++ ys)
  rw [takeUnits_units_append] at h
  exact List.append_cancel_left h

@[simp] lemma takeUnits_units (cs : List Char) : takeUnits (units cs) cs = cs := by
  simpa using takeUnits_units_append cs []

/-! ### Documents of unbroken lines -/

/-- A document has a line, and no line has a line break in it. -/
structure Document.Sound (d : Document) : Prop where
  nonempty : d.lines ≠ []
  unbroken : ∀ l ∈ d.lines, Unbroken l

namespace Document

lemma ofText_sound (text : String) : (ofText text).Sound := by
  refine ⟨pieces_ne_nil _ _, fun l hl => ⟨fun hm => ?_, fun hm => ?_⟩⟩
  · exact absurd (not_brk_of_mem_pieces hl _ hm) (by decide)
  · exact absurd (not_brk_of_mem_pieces hl _ hm) (by decide)

lemma editorLines_text {d : Document} (hd : d.Sound) : editorLines d.text = d.lines :=
  editorLines_joinWith hd.nonempty hd.unbroken

variable {d : Document} {n : Nat}

lemma lineD_of_lt (h : n < d.lines.length) : d.lineD n = d.lines[n] := by
  simp [lineD, h]

lemma lineD_zero_cons {l : List Char} {ls : List (List Char)} (h : d.lines = l :: ls) :
    d.lineD 0 = l := by
  simp [lineD, h]

lemma clamp_of_lt {p : Position} (h : p.line < d.lines.length) :
    d.clamp p = ⟨p.line, min p.column (units (d.lineD p.line))⟩ := by
  have hlast : ¬ d.lines.length - 1 < p.line := by omega
  rw [clamp]
  exact if_neg hlast

/-- A position in an existing line, not past its end, stays where it is. -/
lemma clamp_of_le {col : Nat} (hn : n < d.lines.length) (hcol : col ≤ units (d.lineD n)) :
    d.clamp ⟨n, col⟩ = ⟨n, col⟩ := by
  rw [clamp_of_lt hn, Nat.min_eq_left hcol]

lemma drop_eq_lineD_cons (hn : n < d.lines.length) :
    d.lines.drop n = d.lineD n :: d.lines.drop (n + 1) := by
  rw [lineD_of_lt hn, List.drop_eq_getElem_cons hn]

/-- The lines after one that is not the last are those in between and the last one. -/
lemma drop_eq_append_last (hn : n < d.lines.length - 1) :
    d.lines.drop (n + 1) =
      (d.lines.take (d.lines.length - 1)).drop (n + 1) ++ [d.lineD (d.lines.length - 1)] := by
  have hlast : d.lines.length - 1 < d.lines.length := by omega
  rw [lineD_of_lt hlast, ← List.drop_append_of_le_length (by simp; omega),
    ← List.dropLast_eq_take, ← List.getLast_eq_getElem (List.ne_nil_of_length_pos (by omega)),
    List.dropLast_append_getLast]

/-- A position cuts a line in two. -/
structure Cuts (d : Document) (p : Position) (n : Nat) (left right : List Char) : Prop where
  line : d.lines[n]? = some (left ++ right)
  place : d.clamp p = ⟨n, units left⟩

namespace Cuts

variable {p : Position} {left right : List Char}

lemma lt_length (h : d.Cuts p n left right) : n < d.lines.length :=
  (List.getElem?_eq_some_iff.mp h.line).choose

lemma lineD_eq (h : d.Cuts p n left right) : d.lineD n = left ++ right := by
  rw [lineD, h.line, Option.getD_some]

lemma slice_before (h : d.Cuts p n left right) :
    d.slice ⟨⟨0, 0⟩, p⟩ = (d.lines.take n).flatMap (· ++ ['\n']) ++ left := by
  have hn := h.lt_length
  unfold slice
  simp only [clamp_of_le (Nat.zero_lt_of_lt hn) (Nat.zero_le _), h.place]
  rcases n with _ | n
  · simp [h.lineD_eq, takeUnits_units_append]
  · obtain ⟨l, ls, hls⟩ := List.exists_cons_of_length_pos (Nat.zero_lt_of_lt hn)
    have hne : ¬ 0 = n + 1 := by omega
    have hjoin := joinWith_append_cons ['\n'] (l :: ls.take n) left []
    simp only [if_neg hne, h.lineD_eq, takeUnits_units_append, lineD_zero_cons hls, hls]
    simpa using hjoin

lemma slice_after (h : d.Cuts p n left right) :
    d.slice ⟨p, d.stop⟩ = right ++ (d.lines.drop (n + 1)).flatMap ('\n' :: ·) := by
  have hn := h.lt_length
  have hlast : d.lines.length - 1 < d.lines.length := by omega
  unfold slice stop
  simp only [h.place, clamp_of_le hlast (Nat.le_refl _), h.lineD_eq, dropUnits_units_append]
  by_cases heq : n = d.lines.length - 1
  · have hdrop : d.lines.drop (n + 1) = [] := List.drop_eq_nil_of_le (by omega)
    have hunits : units (d.lineD n) - units left = units right := by
      rw [h.lineD_eq, units_append, Nat.add_sub_cancel_left]
    rw [if_pos heq, hdrop, ← heq, hunits, takeUnits_units]
    simp
  · have hjoin := joinWith_append_cons ['\n'] []
      right ((d.lines.take (d.lines.length - 1)).drop (n + 1) ++ [d.lineD (d.lines.length - 1)])
    rw [if_neg heq, drop_eq_append_last (by omega)]
    simpa using hjoin

lemma slice_between {r : Range} {before between after : List Char}
    (h : d.Cuts r.start n before (between ++ after))
    (h' : d.Cuts r.stop n (before ++ between) after) : d.slice r = between := by
  unfold slice
  simp only [h.place, h'.place, if_true, h.lineD_eq, dropUnits_units_append, units_append,
    Nat.add_sub_cancel_left, takeUnits_units_append]

end Cuts

lemma cuts_start (hn : n < d.lines.length) : d.Cuts ⟨n, 0⟩ n [] (d.lineD n) where
  line := by rw [lineD_of_lt hn, List.nil_append, List.getElem?_eq_getElem hn]
  place := clamp_of_le hn (Nat.zero_le _)

lemma cuts_stop (hn : n < d.lines.length) :
    d.Cuts ⟨n, units (d.lineD n)⟩ n (d.lineD n) [] where
  line := by rw [lineD_of_lt hn, List.append_nil, List.getElem?_eq_getElem hn]
  place := clamp_of_le hn (Nat.le_refl _)

lemma withLines_documentLines {text : List Char} {ls : List (List Char)} (hne : ls ≠ [])
    (hls : ∀ l ∈ ls, Unbroken l) (htext : text = joinWith ['\n'] ls) :
    ({ d with lines := documentLines text } : Document) = { d with lines := ls } := by
  rw [htext, documentLines_joinWith hne hls]

/-- An edit puts its text between what it leaves of the lines in which it begins and ends. -/
theorem edited_between (hd : d.Sound) {r : Range} {first last : Nat}
    {before opened closed after : List Char} (hstart : d.Cuts r.start first before opened)
    (hstop : d.Cuts r.stop last closed after) {t : List Char} (ht : Unbroken t) :
    d.edited (.replace r t) =
      { d with lines := d.lines.take first ++ (before ++ t ++ after) :: d.lines.drop (last + 1) } := by
  have hbefore : Unbroken before :=
    (hd.unbroken _ (List.mem_of_getElem? hstart.line)).of_subset fun _ => List.mem_append_left _
  have hafter : Unbroken after :=
    (hd.unbroken _ (List.mem_of_getElem? hstop.line)).of_subset fun _ => List.mem_append_right _
  refine withLines_documentLines (by simp) (fun l hl => ?_) ?_
  · simp only [List.mem_append, List.mem_cons] at hl
    rcases hl with hl | rfl | hl
    · exact hd.unbroken l (List.mem_of_mem_take hl)
    · exact (hbefore.append ht).append hafter
    · exact hd.unbroken l (List.mem_of_mem_drop hl)
  · simp only [Edit.range, Edit.text, hstart.slice_before, hstop.slice_after, joinWith_append_cons]
    simp

/-- An edit of whole lines that follow one another puts one line in their place. -/
theorem edited_lines (hd : d.Sound) {first last : Nat} (hle : first ≤ last)
    (hlast : last < d.lines.length) {t : List Char} (ht : Unbroken t) :
    d.edited (.replace ⟨⟨first, 0⟩, ⟨last, units (d.lineD last)⟩⟩ t) =
      { d with lines := d.lines.take first ++ t :: d.lines.drop (last + 1) } := by
  rw [edited_between hd (cuts_start (Nat.lt_of_le_of_lt hle hlast)) (cuts_stop hlast) ht]
  simp

theorem edited_line (hd : d.Sound) (hn : n < d.lines.length) {t : List Char} (ht : Unbroken t) :
    d.edited (.replace (d.lineRange n) t) = { d with lines := d.lines.set n t } := by
  have hset : d.lines.set n t = d.lines.take n ++ t :: d.lines.drop (n + 1) :=
    List.set_eq_take_append_cons_drop.trans (if_pos hn)
  rw [hset]
  exact edited_lines hd (Nat.le_refl n) hn ht

def withInserted (d : Document) (n : Nat) (ls : List (List Char)) : Document :=
  { d with lines := d.lines.take n ++ ls ++ d.lines.drop n }

lemma length_withInserted (hn : n ≤ d.lines.length) (ls : List (List Char)) :
    (d.withInserted n ls).lines.length = d.lines.length + ls.length := by
  simp only [withInserted, List.length_append, List.length_take, List.length_drop]
  omega

lemma withInserted_sound (hd : d.Sound) (hn : n < d.lines.length) {ls : List (List Char)}
    (hls : ∀ l ∈ ls, Unbroken l) : (d.withInserted n ls).Sound where
  nonempty := by
    have hlen := length_withInserted (Nat.le_of_lt hn) ls
    exact List.ne_nil_of_length_pos (by omega)
  unbroken l hl := by
    simp only [withInserted, List.mem_append] at hl
    rcases hl with (hl | hl) | hl
    · exact hd.unbroken l (List.mem_of_mem_take hl)
    · exact hls l hl
    · exact hd.unbroken l (List.mem_of_mem_drop hl)

/-- Lines that are put in at the beginning of a line come before it. -/
theorem edited_insert_lines (hd : d.Sound) (hn : n < d.lines.length) {ls : List (List Char)}
    (hls : ∀ l ∈ ls, Unbroken l) :
    d.edited (.insert ⟨n, 0⟩ (ls.flatMap (· ++ ['\n']))) = d.withInserted n ls := by
  have hsound := withInserted_sound hd hn hls
  refine withLines_documentLines hsound.nonempty hsound.unbroken ?_
  simp only [Edit.range, Edit.text, Range.at_, (cuts_start hn).slice_before,
    (cuts_start hn).slice_after, drop_eq_lineD_cons hn, joinWith_append_cons,
    List.flatMap_append]
  simp

/-! ### Many lines at once -/

/-- The edits that give lines from `first` on new texts, where they differ from the old ones. -/
def lineEdits (d : Document) (first : Nat) (old new : List (List Char)) : List Edit :=
  ((old.zip new).zipIdx first).filterMap fun ((l, m), n) =>
    if l = m then none else some (.replace (d.lineRange n) m)

lemma lineEdits_nil (d : Document) (first : Nat) (new : List (List Char)) :
    d.lineEdits first [] new = [] := rfl

lemma lineEdits_cons (d : Document) (first : Nat) (l m : List Char) (old new : List (List Char)) :
    d.lineEdits first (l :: old) (m :: new) =
      (if l = m then [] else [.replace (d.lineRange first) m]) ++
        d.lineEdits (first + 1) old new := by
  unfold lineEdits
  rw [List.zip_cons_cons, List.zipIdx_cons, List.filterMap_cons]
  by_cases h : l = m <;> simp [h]

/-- Edits of whole lines, from the first line to the last. -/
structure WholeLines (d : Document) (es : List Edit) : Prop where
  each : ∀ e ∈ es, ∃ n t, n < d.lines.length ∧ e = .replace (d.lineRange n) t ∧ Unbroken t
  ordered : es.Pairwise fun e f => e.range.start.line < f.range.start.line

lemma line_of_mem_lineEdits {first : Nat} {old new : List (List Char)} {e : Edit}
    (h : e ∈ d.lineEdits first old new) :
    ∃ n t, first ≤ n ∧ n < first + old.length ∧ t ∈ new ∧ e = .replace (d.lineRange n) t := by
  induction old generalizing first new with
  | nil => simp [lineEdits_nil] at h
  | cons l old ih =>
    rcases new with _ | ⟨m, new⟩
    · simp [lineEdits] at h
    · rw [lineEdits_cons] at h
      rcases List.mem_append.mp h with hhead | htail
      · split_ifs at hhead
        · simp at hhead
        · exact ⟨first, m, Nat.le_refl _, by simp, by simp, by simpa using hhead⟩
      · obtain ⟨n, t, hle, hlt, ht, rfl⟩ := ih htail
        refine ⟨n, t, by omega, ?_, List.mem_cons_of_mem m ht, rfl⟩
        rw [List.length_cons]
        omega

lemma wholeLines_lineEdits {first : Nat} {old new : List (List Char)}
    (hfit : first + old.length ≤ d.lines.length) (hnew : ∀ t ∈ new, Unbroken t) :
    d.WholeLines (d.lineEdits first old new) where
  each := by
    intro e he
    obtain ⟨n, t, -, hlt, ht, rfl⟩ := line_of_mem_lineEdits he
    exact ⟨n, t, by omega, rfl, hnew t ht⟩
  ordered := by
    clear hfit hnew
    induction old generalizing first new with
    | nil => exact List.Pairwise.nil
    | cons l old ih =>
      rcases new with _ | ⟨m, new⟩
      · simp [lineEdits]
      · rw [lineEdits_cons]
        split_ifs
        · exact ih
        · refine List.pairwise_cons.mpr ⟨fun f hf => ?_, ih⟩
          obtain ⟨n, t, hle, -, -, rfl⟩ := line_of_mem_lineEdits hf
          simp only [Edit.range, lineRange]
          omega

/-- Making the edits puts the new texts in the place of the old ones. -/
theorem editedAll_lineEdits (hd : d.Sound) {before old new after : List (List Char)}
    (hlines : d.lines = before ++ old ++ after) (hlen : new.length = old.length)
    (hnew : ∀ t ∈ new, Unbroken t) :
    d.editedAll (d.lineEdits before.length old new) =
      { d with lines := before ++ new ++ after } := by
  induction old generalizing before new with
  | nil =>
    obtain rfl := List.eq_nil_of_length_eq_zero hlen
    rw [← hlines]
    rfl
  | cons l old ih =>
    rcases new with _ | ⟨m, new⟩
    · simp at hlen
    · have hcut : d.lines = (before ++ [l]) ++ old ++ after := by simp [hlines]
      have htail := ih hcut (by simpa using hlen) fun t ht => hnew t (List.mem_cons_of_mem m ht)
      rw [List.length_append, List.length_singleton] at htail
      -- the later lines are done; the edit of this one still finds it as it was
      have hl : l ∈ d.lines := by simp [hlines]
      have hrest : (⟨before ++ [l] ++ new ++ after, d.language, d.path⟩ : Document).Sound := by
        refine ⟨by simp, fun k hk => ?_⟩
        simp only [List.mem_append, List.mem_singleton] at hk
        rcases hk with ((hk | rfl) | hk) | hk
        · exact hd.unbroken k (by simp [hlines, hk])
        · exact hd.unbroken k hl
        · exact hnew k (List.mem_cons_of_mem m hk)
        · exact hd.unbroken k (by simp [hlines, hk])
      rw [lineEdits_cons]
      split_ifs with heq
      · subst heq
        simpa using htail
      · have hrange : d.lineRange before.length =
            (⟨before ++ [l] ++ new ++ after, d.language, d.path⟩ : Document).lineRange
              before.length := by
          simp [lineRange, lineD, hlines]
        have hedit := edited_line (n := before.length) hrest (by simp) (hnew m (by simp))
        have hstep : d.editedAll (.replace (d.lineRange before.length) m ::
            d.lineEdits (before.length + 1) old new) =
              (d.editedAll (d.lineEdits (before.length + 1) old new)).edited
                (.replace (d.lineRange before.length) m) := rfl
        rw [List.singleton_append, hstep, htail, hrange, hedit]
        simp

end Document

end Flowline.Editor
