import Mathlib
import OrderDesk.Config.Settings

/-!
# Comma-separated lists

A list setting, such as the allowed origins, is read by cutting its text at every comma,
trimming each piece of blanks and dropping the pieces left empty (`parseList`).

Main statements: a comma between two texts joins their lists (`parseList_append_comma`), so a
text made by joining parts with commas reads as the entries of the parts in turn
(`parseList_intercalate`); every entry read is a `ListEntry`, some text with no comma and no
blank at either end (`ListEntry.of_mem_parseList`), and these are exactly the texts that read
as themselves alone (`parseList_eq_singleton_iff`). Joining the entries read with commas and
reading the result therefore gives them back (`parseList_rejoin`); `parseList_laws` gathers the
three laws.
-/

namespace OrderDesk

/-! ## Cutting at commas -/

/-- Cutting at commas is the library's `List.splitOn ','`. The library's cut is never empty, so
    the definition's case for an empty cut is never taken. -/
theorem splitCommas_eq_splitOn (cs : List Char) : splitCommas cs = cs.splitOn ',' := by
  induction cs with
  | nil => rfl
  | cons c rest ih =>
    obtain ⟨first, pieces, hsplit⟩ := List.exists_cons_of_ne_nil (List.splitOn_ne_nil ',' rest)
    rw [splitCommas, ih, List.splitOn_cons_eq_if_modifyHead, hsplit]
    by_cases hc : c = ',' <;> simp [hc]

/-- Cutting a text at a comma cuts it into the pieces of either side. -/
theorem splitCommas_append_comma (xs ys : List Char) :
    splitCommas (xs ++ ',' :: ys) = splitCommas xs ++ splitCommas ys := by
  simp only [splitCommas_eq_splitOn, List.splitOn_append_cons_self]

/-- No piece holds a comma. -/
theorem comma_not_mem_of_mem_splitCommas {cs piece : List Char} (h : piece ∈ splitCommas cs) :
    ',' ∉ piece := by
  rw [splitCommas_eq_splitOn] at h
  induction cs generalizing piece with
  | nil => simp_all
  | cons c rest ih =>
    rw [List.splitOn_cons_eq_if_modifyHead] at h
    by_cases hc : c = ','
    · simp only [hc, BEq.rfl, if_true, List.mem_cons] at h
      rcases h with rfl | h
      · simp
      · exact ih h
    · obtain ⟨first, pieces, hsplit⟩ :=
        List.exists_cons_of_ne_nil (List.splitOn_ne_nil ',' rest)
      simp only [beq_iff_eq, hc, if_false, hsplit, List.modifyHead_cons, List.mem_cons] at h
      rcases h with rfl | h
      · have hfirst : ',' ∉ first := ih (by simp [hsplit])
        simp [Ne.symm hc, hfirst]
      · exact ih (by simp [hsplit, h])

/-! ## Trimming blanks -/

/-- Trimming drops the blanks in front, then those at the back. -/
theorem trimSpaces_eq_rdropWhile (cs : List Char) :
    trimSpaces cs = (cs.dropWhile isSpace).rdropWhile isSpace := rfl

/-- Trimming the back of the text keeps the front where trimming the front stopped. -/
theorem trimSpaces_isPrefix_dropWhile (cs : List Char) :
    trimSpaces cs <+: cs.dropWhile isSpace := by
  rw [trimSpaces_eq_rdropWhile]
  exact List.rdropWhile_prefix isSpace _

/-- Trimming keeps one stretch of the text. -/
theorem trimSpaces_isInfix (cs : List Char) : trimSpaces cs <:+: cs :=
  (trimSpaces_isPrefix_dropWhile cs).isInfix.trans (List.dropWhile_suffix isSpace).isInfix

/-- Trimmed text does not start with a blank. -/
theorem head?_trimSpaces_not_space (cs : List Char) :
    ∀ c ∈ (trimSpaces cs).head?, isSpace c = false := by
  intro c hc
  rw [Option.mem_def, ← List.singleton_prefix_iff_head?_eq_some] at hc
  have hfront : (cs.dropWhile isSpace).head? = some c :=
    List.singleton_prefix_iff_head?_eq_some.mp (hc.trans (trimSpaces_isPrefix_dropWhile cs))
  have hstop := List.head?_dropWhile_not isSpace cs
  rw [hfront] at hstop
  exact hstop

/-- Trimmed text does not end with a blank. -/
theorem getLast?_trimSpaces_not_space (cs : List Char) :
    ∀ c ∈ (trimSpaces cs).getLast?, isSpace c = false := by
  intro c hc
  rw [trimSpaces_eq_rdropWhile] at hc
  have hback := List.rdropWhile_last_not isSpace (cs.dropWhile isSpace)
    (List.ne_nil_of_mem (List.mem_of_mem_getLast? hc))
  rw [List.getLast_of_mem_getLast? hc] at hback
  simpa using hback

/-- Text with no blank at either end is its own trimmed form. -/
theorem trimSpaces_eq_self {cs : List Char} (hhead : ∀ c ∈ cs.head?, isSpace c = false)
    (hlast : ∀ c ∈ cs.getLast?, isSpace c = false) : trimSpaces cs = cs := by
  have hfront : cs.dropWhile isSpace = cs := by
    cases cs with
    | nil => rfl
    | cons c rest => exact List.dropWhile_cons_of_neg (by simp [hhead c rfl])
  rw [trimSpaces_eq_rdropWhile, hfront, List.rdropWhile_eq_self_iff]
  intro hne
  simp [hlast _ (List.getLast?_eq_some_getLast hne)]

/-! ## Reading a list -/

/-- Reading `a,b` reads the entries of `a`, then those of `b`. -/
theorem parseList_append_comma (a b : String) :
    parseList (a ++ "," ++ b) = parseList a ++ parseList b := by
  have htext : (a ++ "," ++ b).toList = a.toList ++ ',' :: b.toList := by simp
  simp only [parseList, htext, splitCommas_append_comma, List.map_append, List.filter_append]

/-- Parts joined with commas read as the entries of each part in turn. -/
theorem parseList_intercalate (parts : List String) :
    parseList (",".intercalate parts) = parts.flatMap parseList := by
  induction parts with
  | nil => rfl
  | cons t rest ih =>
    cases rest with
    | nil => simp
    | cons u rest =>
      rw [List.flatMap_cons, String.intercalate_cons_cons, parseList_append_comma, ih]

/-- What a list setting holds as one entry: some text, with no comma and no blank at either end. -/
structure ListEntry (e : String) : Prop where
  ne_empty : e ≠ ""
  comma_not_mem : ',' ∉ e.toList
  head_not_space : ∀ c ∈ e.toList.head?, isSpace c = false
  last_not_space : ∀ c ∈ e.toList.getLast?, isSpace c = false

/-- Every entry read is a `ListEntry`; it holds no comma since a trimmed piece is a stretch of a
    piece. -/
theorem ListEntry.of_mem_parseList {s e : String} (h : e ∈ parseList s) : ListEntry e := by
  simp only [parseList, List.mem_map, List.mem_filter] at h
  obtain ⟨cs, ⟨⟨piece, hpiece, rfl⟩, hne⟩, rfl⟩ := h
  refine ⟨?_, ?_, ?_, ?_⟩
  · simpa using hne
  · have hstretch := (trimSpaces_isInfix piece).subset
    simpa using fun hc => comma_not_mem_of_mem_splitCommas hpiece (hstretch hc)
  · simpa using head?_trimSpaces_not_space piece
  · simpa using getLast?_trimSpaces_not_space piece

example : parseList "a, b,,c ," = ["a", "b", "c"] := by decide

/-- An entry reads as itself alone. -/
theorem ListEntry.parseList_eq {e : String} (h : ListEntry e) : parseList e = [e] := by
  have hne : e.toList ≠ [] := by simpa using h.ne_empty
  simp [parseList, splitCommas_eq_splitOn, List.splitOn_eq_singleton h.comma_not_mem,
    trimSpaces_eq_self h.head_not_space h.last_not_space, hne]

/-- The texts that read as themselves alone are exactly the entries. -/
theorem parseList_eq_singleton_iff {e : String} : parseList e = [e] ↔ ListEntry e := by
  constructor
  · intro h
    have hmem : e ∈ parseList e := by rw [h]; exact List.mem_singleton_self e
    exact ListEntry.of_mem_parseList hmem
  · exact ListEntry.parseList_eq

/-- Joining the entries read with commas and reading the result gives them back. -/
theorem parseList_rejoin (s : String) :
    parseList (",".intercalate (parseList s)) = parseList s := by
  calc parseList (",".intercalate (parseList s))
      = (parseList s).flatMap parseList := parseList_intercalate _
    _ = (parseList s).flatMap (fun e => [e]) :=
        List.flatMap_congr fun _ he => (ListEntry.of_mem_parseList he).parseList_eq
    _ = parseList s := List.flatMap_singleton' _

/-- The laws of reading a list setting: a comma between two texts joins their lists, every entry
read is some text with no comma and no blank at either end, and joining the entries with commas
and reading again gives them back. -/
theorem parseList_laws (a b s : String) :
    parseList (a ++ "," ++ b) = parseList a ++ parseList b ∧
      (∀ e ∈ parseList s, ListEntry e) ∧
      parseList (",".intercalate (parseList s)) = parseList s :=
  ⟨parseList_append_comma a b, fun _ he => ListEntry.of_mem_parseList he, parseList_rejoin s⟩

end OrderDesk
