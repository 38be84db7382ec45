import Mathlib.Data.String.Basic
import PowerDiscovery.Location

/-! # Names in locations

A name is added to the location of a directory after a separator.  Its ending is what stands from its last dot
on, if there is something on both sides of it. -/

namespace PowerDiscovery.Location

open Text

variable {word : List Char} {location name : String}

/-! ### Names after a location -/

private theorem root_append_of_ne {c : Char} (hc : c ≠ '/') (cs rest : List Char) :
    root (root cs ++ c :: rest) = root cs := by
  fun_cases root cs <;> simp [root, hc]

private theorem of_mem_names {cs piece : List Char} (h : piece ∈ names cs) : piece ≠ [] ∧ '/' ∉ piece := by
  obtain ⟨hpiece, hkept⟩ := List.mem_filter.mp h
  refine ⟨?_, not_mem_of_mem_split hpiece⟩
  rintro rfl
  exact absurd hkept (by decide)

private theorem names_append {cs piece : List Char} (hne : piece ≠ []) (hstep : piece ≠ ['.'])
    (hslash : '/' ∉ piece) :
    names (cs ++ '/' :: piece) = names cs ++ [piece] := by
  have hkept : (!piece.isEmpty && piece != ['.']) = true := by simp [hne, hstep]
  rw [names, split_append, split_of_not_mem hslash, List.filter_append, List.filter_singleton, hkept]
  rfl

private theorem exists_join_names {cs : List Char} (h : names cs ≠ []) :
    (∃ c rest, c ≠ '/' ∧ join '/' (names cs) = c :: rest) ∧
      ∃ front c, c ≠ '/' ∧ join '/' (names cs) = front ++ [c] := by
  have hplain {piece : List Char} (hpiece : piece ∈ names cs) : ∀ c ∈ piece, c ≠ '/' :=
    fun c hc heq => (of_mem_names hpiece).2 (heq ▸ hc)
  constructor
  · obtain ⟨piece, pieces, hsplit⟩ := List.exists_cons_of_ne_nil h
    have hmem : piece ∈ names cs := hsplit ▸ List.mem_cons_self
    obtain ⟨c, rest, rfl⟩ := List.exists_cons_of_ne_nil (of_mem_names hmem).1
    rw [hsplit, join_cons]
    exact ⟨c, _, hplain hmem c List.mem_cons_self, rfl⟩
  · obtain ⟨pieces, piece, hsplit⟩ := (List.eq_nil_or_concat (names cs)).resolve_left h
    have hmem : piece ∈ names cs := by simp [hsplit]
    obtain ⟨front, c, rfl⟩ := (List.eq_nil_or_concat piece).resolve_left (of_mem_names hmem).1
    have hc : c ≠ '/' := hplain hmem c (by simp)
    rw [List.concat_eq_append, List.concat_eq_append] at hsplit
    rw [hsplit]
    cases pieces with
    | nil => exact ⟨front, c, hc, rfl⟩
    | cons next pieces =>
      rw [join_append '/' (List.cons_ne_nil _ _) (List.cons_ne_nil _ _), join, ← List.cons_append,
        ← List.append_assoc]
      exact ⟨_, c, hc, rfl⟩

private theorem toList_normal {s : String} (h : root s.toList ++ join '/' (names s.toList) ≠ []) :
    (normal s).toList = root s.toList ++ join '/' (names s.toList) := by
  simp only [normal]
  exact String.toList_ofList

theorem normal_ofList {cs : List Char} (h : root cs ++ join '/' (names cs) = cs) (hne : cs ≠ []) :
    normal (String.ofList cs) = String.ofList cs := by
  have hchars : (String.ofList cs).toList = cs := String.toList_ofList
  apply String.toList_inj.mp
  rw [toList_normal (by rwa [hchars, h]), hchars, h]

private theorem toList_of_normal (hnormal : normal location = location) (hnames : names location.toList ≠ []) :
    location.toList = root location.toList ++ join '/' (names location.toList) := by
  obtain ⟨⟨c, rest, -, hjoin⟩, -⟩ := exists_join_names hnames
  rw [← toList_normal (by simp [hjoin]), hnormal]

private theorem endsWith_of_normal (hnormal : normal location = location) (hnames : names location.toList ≠ []) :
    location.endsWith "/" = false := by
  obtain ⟨-, front, c, hc, hjoin⟩ := exists_join_names hnames
  rw [← String.endsWith_toSlice, String.Slice.endsWith_string_eq_false_iff, String.copy_toSlice,
    toList_of_normal hnormal hnames, hjoin, ← List.append_assoc]
  intro hslash
  have hlast : (root location.toList ++ front ++ [c]).getLast? = some '/' :=
    List.singleton_suffix_iff_getLast?_eq_some.mp hslash
  rw [List.getLast?_concat] at hlast
  exact hc (Option.some.inj hlast)

theorem child_of_name (hnormal : normal location = location) (hnames : names location.toList ≠ [])
    (hne : name ≠ "") (hstep : name ≠ ".") (hslash : '/' ∉ name.toList) :
    child location name = location ++ "/" ++ name := by
  have hwritten := toList_of_normal hnormal hnames
  have hchars : (location ++ "/" ++ name).toList = location.toList ++ '/' :: name.toList := by simp
  have hroot : root (location.toList ++ '/' :: name.toList) = root location.toList := by
    obtain ⟨⟨c, rest, hc, hjoin⟩, -⟩ := exists_join_names hnames
    rw [hjoin] at hwritten
    conv_lhs => rw [hwritten, List.append_assoc, List.cons_append, root_append_of_ne hc]
  have hkept : names (location.toList ++ '/' :: name.toList) = names location.toList ++ [name.toList] :=
    names_append (mt String.toList_eq_nil_iff.mp hne) (fun h => hstep (String.toList_inj.mp h)) hslash
  have hall : root (location ++ "/" ++ name).toList ++ join '/' (names (location ++ "/" ++ name).toList) =
      (location ++ "/" ++ name).toList := by
    rw [hchars, hroot, hkept, join_append '/' hnames (List.cons_ne_nil _ _), ← List.append_assoc, ← hwritten, join]
  have hsome : root (location ++ "/" ++ name).toList ++ join '/' (names (location ++ "/" ++ name).toList) ≠ [] := by
    rw [hall, hchars]
    exact List.append_ne_nil_of_right_ne_nil _ (List.cons_ne_nil _ _)
  rw [child, endsWith_of_normal hnormal hnames, if_neg Bool.false_ne_true]
  apply String.toList_inj.mp
  rw [toList_normal hsome, hall]

/-! ### Endings -/

private theorem afterLastDot_cases (cs : List Char) :
    (cs.reverse.takeWhile (· != '.')).reverse = cs ∨
      ∃ front, cs = front ++ '.' :: (cs.reverse.takeWhile (· != '.')).reverse := by
  have hcut : (cs.reverse.dropWhile (· != '.')).reverse ++ (cs.reverse.takeWhile (· != '.')).reverse = cs := by
    rw [← List.reverse_append, List.takeWhile_append_dropWhile, List.reverse_reverse]
  cases hbefore : cs.reverse.dropWhile (· != '.') with
  | nil =>
    rw [hbefore, List.reverse_nil, List.nil_append] at hcut
    exact .inl hcut
  | cons c rest =>
    have hdot : (c != '.') = false := by
      have hdropped := List.head?_dropWhile_not (· != '.') cs.reverse
      rwa [hbefore] at hdropped
    rw [hbefore, List.reverse_cons, List.append_assoc, List.singleton_append, bne_eq_false_iff_eq.mp hdot] at hcut
    exact .inr ⟨rest.reverse, hcut.symm⟩

theorem front_of_ending (h : ending name = String.ofList ('.' :: word)) :
    ∃ front, front ≠ [] ∧ name.toList = front ++ '.' :: word := by
  simp only [ending] at h
  split at h
  · have hnil := congrArg String.toList h
    simp at hnil
  · rename_i hkept
    have htail : (name.toList.reverse.takeWhile (· != '.')).reverse = word := by
      simpa using congrArg String.toList h
    have hcases := afterLastDot_cases name.toList
    rw [htail] at hcases
    simp only [htail, Bool.or_eq_true, decide_eq_true_eq, not_or] at hkept
    rcases hcases with hall | ⟨front, hfront⟩
    · exact absurd (congrArg List.length hall) hkept.1.1
    · refine ⟨front, ?_, hfront⟩
      rintro rfl
      exact hkept.2 (congrArg List.length hfront).symm

theorem ending_of_front {front : List Char} (hfront : front ≠ []) (hword : word ≠ []) (hdot : '.' ∉ word)
    (hname : name.toList = front ++ '.' :: word) : ending name = String.ofList ('.' :: word) := by
  have hplain : ∀ c ∈ word.reverse, (c != '.') = true := by
    intro c hc
    rw [bne_iff_ne]
    rintro rfl
    exact hdot (List.mem_reverse.mp hc)
  have htail : (name.toList.reverse.takeWhile (· != '.')).reverse = word := by
    rw [hname, List.reverse_append, List.reverse_cons, List.append_assoc, List.singleton_append,
      takeWhile_run hplain (by decide), List.reverse_reverse]
  have hlength : name.toList.length = front.length + (word.length + 1) := by
    rw [hname, List.length_append, List.length_cons]
  have hpos := List.length_pos_iff.mpr hfront
  have hwhole : word.length ≠ name.toList.length := by omega
  have hfirst : word.length + 1 ≠ name.toList.length := by omega
  simp only [ending, htail]
  simp [hwhole, hfirst, hword]

end PowerDiscovery.Location
