import DeclaredUi.Text.Lines

/-! Texts taken line by line. The lines of a text are those in front of its line breaks and
what is left at its end. So a text that is written line by line has these lines again, and
giving every line of a text its line break gives one to the end of the text. -/

namespace DeclaredUi

namespace Lines

/-- Ends with a line break and has no other. -/
def IsLine (line : String) : Prop := ∃ body : String, '\n' ∉ body.toList ∧ line = body ++ "\n"

/-- A text with a line break at its end, or no text at all. -/
def ended (text : String) : String := if text = "" then "" else terminated text

/-! ## Where lines end -/

theorem split_append_line {line : List Char} (h : '\n' ∉ line) (rest : List Char) :
    split (line ++ '\n' :: rest) = (line ++ ['\n']) :: split rest := by
  induction line with
  | nil => simp [split]
  | cons c line ih =>
    obtain ⟨hc, hline⟩ := List.ne_and_not_mem_of_not_mem_cons h
    rw [List.cons_append, split, if_neg hc.symm, ih hline]
    rfl

theorem split_eq_singleton {line : List Char} (h : '\n' ∉ line) (hne : line ≠ []) :
    split line = [line] := by
  induction line with
  | nil => exact absurd rfl hne
  | cons c line ih =>
    obtain ⟨hc, hline⟩ := List.ne_and_not_mem_of_not_mem_cons h
    rw [split, if_neg hc.symm]
    cases line with
    | nil => rfl
    | cons d line => rw [ih hline (List.cons_ne_nil d line)]

theorem ofText_append_line {line : String} (h : '\n' ∉ line.toList) (rest : String) :
    ofText (line ++ "\n" ++ rest) = (line ++ "\n") :: ofText rest := by
  have hlist : (line ++ "\n" ++ rest).toList = line.toList ++ '\n' :: rest.toList := by simp
  unfold ofText
  rw [hlist, split_append_line h, List.map_cons, String.ofList_append, String.ofList_toList]

theorem ofText_eq_singleton {line : String} (h : '\n' ∉ line.toList) (hne : line ≠ "") :
    ofText line = [line] := by
  have hlist : line.toList ≠ [] := by
    rwa [Ne, String.toList_eq_nil_iff]
  unfold ofText
  rw [split_eq_singleton h hlist, List.map_singleton, String.ofList_toList]

/-- Induction on a text by its first line. -/
@[elab_as_elim]
theorem byLines {motive : String → Prop} (empty : motive "")
    (last : ∀ line : String, '\n' ∉ line.toList → line ≠ "" → motive line)
    (line : ∀ line rest : String, '\n' ∉ line.toList → motive rest →
      motive (line ++ "\n" ++ rest)) (text : String) : motive text := by
  induction hlength : text.toList.length using Nat.strongRecOn generalizing text with
  | ind length ih =>
    by_cases hbreak : '\n' ∈ text.toList
    · obtain ⟨first, rest, hsplit, hfirst⟩ := List.eq_append_cons_of_mem hbreak
      have htext : text = String.ofList first ++ "\n" ++ String.ofList rest := by
        refine String.toList_injective ?_
        simp [hsplit]
      have hshorter : (String.ofList rest).toList.length < length := by
        rw [← hlength, hsplit, String.toList_ofList, List.length_append, List.length_cons]
        omega
      rw [htext]
      exact line _ _ (by rwa [String.toList_ofList]) (ih _ hshorter _ rfl)
    · by_cases hempty : text = ""
      · rw [hempty]
        exact empty
      · exact last text hbreak hempty

/-! ## Lines with a line break -/

theorem terminated_of_not_mem {line : String} (h : '\n' ∉ line.toList) :
    terminated line = line ++ "\n" := by
  rw [terminated, if_neg fun hlast => h (List.mem_of_getLast? hlast)]

/-- What stands in front of a line does not matter for its end. -/
theorem terminated_append {start : String} (h : '\n' ∉ start.toList) (line : String) :
    terminated (start ++ line) = start ++ terminated line := by
  have hlast : (start ++ line).toList.getLast? = some '\n' ↔ line.toList.getLast? = some '\n' := by
    rw [String.toList_append, List.getLast?_append]
    cases hline : line.toList.getLast? with
    | some c => rfl
    | none => exact iff_of_false (fun hstart => h (List.mem_of_getLast? hstart)) (by simp)
  unfold terminated
  simp only [hlast]
  split
  · rfl
  · exact String.append_assoc

theorem IsLine.terminated_eq {line : String} (h : IsLine line) : terminated line = line := by
  obtain ⟨body, -, rfl⟩ := h
  rw [terminated, if_pos (by simp)]

theorem IsLine.append {line start : String} (h : IsLine line) (hstart : '\n' ∉ start.toList) :
    IsLine (start ++ line) := by
  obtain ⟨body, hbody, rfl⟩ := h
  refine ⟨start ++ body, ?_, String.append_assoc.symm⟩
  rw [String.toList_append, List.mem_append]
  exact not_or.2 ⟨hstart, hbody⟩

/-- With a line break every line of a text is a line by itself. -/
theorem isLine_of_mem_ofText {text line : String} (h : line ∈ ofText text) :
    IsLine (terminated line) := by
  induction text using byLines with
  | empty => cases h
  | last final hfinal hne =>
    rw [ofText_eq_singleton hfinal hne] at h
    rw [List.mem_singleton.1 h]
    exact ⟨final, hfinal, terminated_of_not_mem hfinal⟩
  | line first rest hfirst ih =>
    rw [ofText_append_line hfirst] at h
    rcases List.mem_cons.1 h with rfl | h
    · have hline : IsLine (first ++ "\n") := ⟨first, hfirst, rfl⟩
      rw [hline.terminated_eq]
      exact hline
    · exact ih h

/-- A text that is written line by line has these lines. -/
theorem ofText_join {lines : List String} (h : ∀ line ∈ lines, IsLine line) :
    ofText (String.join lines) = lines := by
  induction lines with
  | nil => rfl
  | cons line rest ih =>
    obtain ⟨body, hbody, rfl⟩ := h line List.mem_cons_self
    rw [String.join_cons, ofText_append_line hbody,
      ih fun other hm => h other (List.mem_cons_of_mem _ hm)]

theorem ended_append_line (line rest : String) :
    ended (line ++ "\n" ++ rest) = line ++ "\n" ++ ended rest := by
  have hne : line ++ "\n" ++ rest ≠ "" := by simp
  rw [ended, if_neg hne, ended]
  by_cases hrest : rest = ""
  · rw [if_pos hrest, hrest, String.append_empty, terminated, if_pos (by simp)]
  · have hlist : rest.toList ≠ [] := by
      rwa [Ne, String.toList_eq_nil_iff]
    have hlast : (line ++ "\n" ++ rest).toList.getLast? = rest.toList.getLast? := by
      rw [String.toList_append, List.getLast?_append, List.getLast?_eq_some_getLast hlist,
        Option.some_or]
    rw [if_neg hrest, terminated, terminated, hlast]
    split
    · rfl
    · exact String.append_assoc

/-- A line break for every line is one for the end of the text. -/
theorem join_terminated (text : String) :
    String.join ((ofText text).map terminated) = ended text := by
  induction text using byLines with
  | empty => rfl
  | last final hfinal hne =>
    rw [ofText_eq_singleton hfinal hne, ended, if_neg hne]
    simp
  | line first rest hfirst ih =>
    have hline : IsLine (first ++ "\n") := ⟨first, hfirst, rfl⟩
    rw [ofText_append_line hfirst, List.map_cons, String.join_cons, hline.terminated_eq, ih,
      ended_append_line]

theorem map_terminated {lines : List String} (h : ∀ line ∈ lines, IsLine line) :
    lines.map terminated = lines := by
  rw [List.map_congr_left fun line hm => (h line hm).terminated_eq, List.map_id']

theorem ended_join {lines : List String} (h : ∀ line ∈ lines, IsLine line) :
    ended (String.join lines) = String.join lines := by
  rw [← join_terminated, ofText_join h, map_terminated h]

end Lines

end DeclaredUi
