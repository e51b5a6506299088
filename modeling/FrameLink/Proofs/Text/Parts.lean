import FrameLink.Text.Blank
import Mathlib.Data.List.TakeWhile

namespace FrameLink.Text

variable {mark : Char} {cs a b before after : List Char}

theorem splitWhere_eq_splitOnP (separates : Char → Bool) (cs : List Char) :
    splitWhere separates cs = cs.splitOnP separates := by
  induction cs with
  | nil => rfl
  | cons c cs ih =>
    obtain ⟨part, parts, hparts⟩ := List.exists_cons_of_ne_nil (splitWhere_ne_nil separates cs)
    rw [splitWhere, List.splitOnP_cons_eq_if_modifyHead, ← ih, hparts]
    rfl

theorem splitWhere_mark (ha : mark ∉ a) (hb : mark ∉ b) :
    splitWhere (· == mark) (a ++ mark :: b) = [a, b] := by
  rw [splitWhere_eq_splitOnP, ← List.splitOn_eq_splitOnP,
    List.splitOn_append_cons_self_of_not_mem ha, List.splitOn_eq_singleton hb]

theorem eq_of_splitWhere (h : splitWhere (· == mark) cs = [a, b]) : cs = a ++ mark :: b := by
  rw [splitWhere_eq_splitOnP, ← List.splitOn_eq_splitOnP] at h
  calc cs = [mark].intercalate (cs.splitOn mark) := (List.intercalate_splitOn mark).symm
    _ = a ++ mark :: b := by rw [h]; simp [List.intercalate_cons_cons]

theorem dropWhile_isBlank (hcs : ∀ c ∈ cs, isBlank c = false) : cs.dropWhile isBlank = cs := by
  cases cs with
  | nil => rfl
  | cons c cs => exact List.dropWhile_cons_of_neg (by simp [hcs c List.mem_cons_self])

theorem trim_append (hbefore : ∀ c ∈ before, isBlank c = true)
    (hcs : ∀ c ∈ cs, isBlank c = false) (hafter : ∀ c ∈ after, isBlank c = true) :
    trim (before ++ cs ++ after) = cs := by
  have hback : ∀ c ∈ after.reverse, isBlank c = true := fun c hc => hafter c (List.mem_reverse.mp hc)
  have hfront : ((cs ++ after).dropWhile isBlank).reverse.dropWhile isBlank = cs.reverse := by
    cases cs with
    | nil =>
      have hnil : (after ++ []).dropWhile isBlank = [] := List.dropWhile_append_of_pos hafter
      rw [List.append_nil] at hnil
      rw [List.nil_append, hnil]
      rfl
    | cons c cs =>
      have hc : ¬ isBlank c = true := by simp [hcs c List.mem_cons_self]
      rw [List.cons_append, List.dropWhile_cons_of_neg hc, ← List.cons_append, List.reverse_append,
        List.dropWhile_append_of_pos hback, dropWhile_isBlank]
      exact fun d hd => hcs d (List.mem_reverse.mp hd)
  rw [trim, List.append_assoc, List.dropWhile_append_of_pos hbefore, hfront, List.reverse_reverse]

theorem exists_blanks (cs : List Char) :
    ∃ before after, cs = before ++ trim cs ++ after ∧ (∀ c ∈ before, isBlank c = true) ∧
      ∀ c ∈ after, isBlank c = true := by
  refine ⟨cs.takeWhile isBlank, ((cs.dropWhile isBlank).reverse.takeWhile isBlank).reverse, ?_,
    fun c hc => List.mem_takeWhile_imp hc,
    fun c hc => List.mem_takeWhile_imp (List.mem_reverse.mp hc)⟩
  rw [trim, List.append_assoc, ← List.reverse_append, List.takeWhile_append_dropWhile,
    List.reverse_reverse, List.takeWhile_append_dropWhile]

end FrameLink.Text
