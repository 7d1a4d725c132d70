/-!
Texts cut at a separator. What stands in front of the first separator of a text, and what stands
behind the last one, is fixed by the text: `eq_of_first_separator`, `eq_of_last_separator`.
-/

namespace SessionRecorder.Text

variable {c : Char} {front rest front' rest' : List Char}

/-- The characters up to the first separator are what stands in front of it. -/
theorem takeWhile_ne_separator (rest : List Char) (h : c ∉ front) :
    (front ++ c :: rest).takeWhile (· != c) = front := by
  have hother : ∀ d ∈ front, (d != c) = true := fun d hd =>
    bne_iff_ne.2 fun heq => h (heq ▸ hd)
  rw [List.takeWhile_append_of_pos hother, List.takeWhile_cons_of_neg (by simp), List.append_nil]

theorem eq_of_first_separator (hfront : c ∉ front) (hfront' : c ∉ front')
    (h : front ++ c :: rest = front' ++ c :: rest') : front = front' ∧ rest = rest' := by
  have hsame : front = front' := by
    rw [← takeWhile_ne_separator rest hfront, h, takeWhile_ne_separator rest' hfront']
  subst hsame
  exact ⟨rfl, (List.cons.inj (List.append_cancel_left h)).2⟩

/-- The last separator of a text is the first one of the text read backwards. -/
theorem reverse_separated (c : Char) (front rest : List Char) :
    (front ++ c :: rest).reverse = rest.reverse ++ c :: front.reverse := by
  rw [List.reverse_append, List.reverse_cons, List.append_assoc, List.singleton_append]

theorem eq_of_last_separator (hrest : c ∉ rest) (hrest' : c ∉ rest')
    (h : front ++ c :: rest = front' ++ c :: rest') : front = front' ∧ rest = rest' := by
  have hreversed := congrArg List.reverse h
  rw [reverse_separated, reverse_separated] at hreversed
  obtain ⟨hback, hahead⟩ := eq_of_first_separator (fun hc => hrest (List.mem_reverse.1 hc))
    (fun hc => hrest' (List.mem_reverse.1 hc)) hreversed
  exact ⟨List.reverse_inj.1 hahead, List.reverse_inj.1 hback⟩

/-- A text that holds a separator can be cut at the last one. -/
theorem exists_last_separator {cs : List Char} (h : c ∈ cs) :
    ∃ front rest, cs = front ++ c :: rest ∧ c ∉ rest := by
  obtain ⟨back, ahead, hcs, hback⟩ := List.eq_append_cons_of_mem (List.mem_reverse.2 h)
  refine ⟨ahead.reverse, back.reverse, ?_, fun hc => hback (List.mem_reverse.1 hc)⟩
  rw [← reverse_separated, ← hcs, List.reverse_reverse]

end SessionRecorder.Text
