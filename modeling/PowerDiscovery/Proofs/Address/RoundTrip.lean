import Mathlib.Data.List.Nodup
import PowerDiscovery.Proofs.Address.Digits

/-! # Addresses read back

A printed address is read as the address it was printed from.  For IPv6 the groups before the run that
was left out, the run and the groups after it are found again as the sides of a gap. -/

namespace PowerDiscovery

open Text

namespace Address

/-- What a search for a run of zero groups knows of the groups seen so far. -/
structure RunSearch.Of (seen : List Nat) (s : RunSearch) : Prop where
  place : s.place = seen.length
  current : ∃ front, seen = front ++ List.replicate s.current 0
  best : ∃ front back, seen = front ++ List.replicate s.best.length 0 ++ back ∧
    front.length = s.best.start

theorem RunSearch.Of.step {seen : List Nat} {s : RunSearch} (h : s.Of seen) (group : Nat) :
    (s.step group).Of (seen ++ [group]) := by
  obtain ⟨front, hfront⟩ := h.current
  obtain ⟨before, after, hbest, hstart⟩ := h.best
  have hlength : seen.length = front.length + s.current := by
    rw [hfront, List.length_append, List.length_replicate]
  have hkept : ∃ front back, seen ++ [group] = front ++ List.replicate s.best.length 0 ++ back ∧
      front.length = s.best.start := ⟨before, after ++ [group], by rw [hbest]; simp, hstart⟩
  by_cases hg : group = 0
  · subst hg
    have hrun : seen ++ [0] = front ++ List.replicate (s.current + 1) 0 := by
      rw [List.replicate_succ', ← List.append_assoc, ← hfront]
    refine ⟨by simp [RunSearch.step, h.place], ⟨front, hrun⟩, ?_⟩
    by_cases hlonger : s.current + 1 > s.best.length
    · have hplace : front.length = s.place + 1 - (s.current + 1) := by
        rw [h.place]
        omega
      exact ⟨front, [], by simpa [RunSearch.step, hlonger] using hrun,
        by simpa [RunSearch.step, hlonger] using hplace⟩
    · simpa [RunSearch.step, hlonger] using hkept
  · refine ⟨by simp [RunSearch.step, h.place], ⟨seen ++ [group], by simp [RunSearch.step, hg]⟩, ?_⟩
    simpa [RunSearch.step, hg] using hkept

private theorem RunSearch.of_foldl {seen : List Nat} {s : RunSearch} (h : s.Of seen) (groups : List Nat) :
    (groups.foldl step s).Of (seen ++ groups) := by
  induction groups generalizing seen s with
  | nil => simpa using h
  | cons group groups ih => simpa using ih (h.step group)

private theorem groups_around_longestRun (groups : List Nat) :
    groups = groups.take (longestRun groups).start ++ List.replicate (longestRun groups).length 0 ++
      groups.drop ((longestRun groups).start + (longestRun groups).length) := by
  have hempty : RunSearch.Of [] {} := ⟨rfl, ⟨[], rfl⟩, ⟨[], [], rfl, rfl⟩⟩
  obtain ⟨front, back, hgroups, hstart⟩ := (RunSearch.of_foldl hempty groups).best
  rw [List.nil_append] at hgroups
  change groups = front ++ List.replicate (longestRun groups).length 0 ++ back at hgroups
  change front.length = (longestRun groups).start at hstart
  generalize longestRun groups = run at hgroups hstart
  subst hgroups
  rw [← hstart, List.append_assoc, List.take_left, ← List.append_assoc]
  congr 1
  have hlength : (front ++ List.replicate run.length 0).length = front.length + run.length := by simp
  rw [← hlength, List.drop_left]

private theorem toList_inetText (n : Nat) :
    (inetText n).toList = join '.' ((places 256 4 n).map fun octet => (toString octet).toList) := by
  rw [inetText, String.toList_intercalate, join_eq_intercalate, List.map_map]
  rfl

theorem readInet?_inetText {n : Nat} (h : n < Nat.pow 2 32) :
    readInet? (inetText n).toList = some n := by
  have hread : ∀ octet ∈ places 256 4 n, octet? (toString octet).toList = some octet :=
    fun octet ho => octet?_toString (lt_of_mem_places (by decide) ho)
  have hplain : ∀ piece ∈ (places 256 4 n).map fun octet => (toString octet).toList, '.' ∉ piece := by
    intro piece hp hdot
    obtain ⟨octet, ho, rfl⟩ := List.mem_map.1 hp
    exact absurd (isDigit_of_octet? (hread octet ho) '.' hdot) (by decide)
  have hoctets : ((places 256 4 n).map fun octet => (toString octet).toList).mapM octet? =
      some (places 256 4 n) := by
    rw [mapM_eq_some_iff, List.map_map]
    exact List.map_congr_left hread
  have hne : ((places 256 4 n).map fun octet => (toString octet).toList) ≠ [] :=
    List.ne_nil_of_length_pos (by simp)
  have hvalue : ofDigits 256 (places 256 4 n) = n := ofDigits_places h
  rw [readInet?, toList_inetText, split_join hne hplain, hoctets]
  simp only [Option.bind_eq_bind, Option.bind_some, length_places, if_true, hvalue]

theorem isDigit_of_readInet? {cs : List Char} {n : Nat} (h : readInet? cs = some n) :
    ∀ c ∈ cs, c = '.' ∨ c.isDigit = true := by
  obtain ⟨octets, hread, -⟩ := Option.bind_eq_some_iff.1 h
  intro c hc
  rw [← join_split '.' cs] at hc
  refine (mem_join hc).imp_right ?_
  rintro ⟨piece, hpiece, hc⟩
  obtain ⟨octet, -, hoctet⟩ := (exists_of_mapM hread).1 piece hpiece
  exact isDigit_of_octet? hoctet c hc

theorem readInet?_lt {cs : List Char} {n : Nat} (h : readInet? cs = some n) : n < Nat.pow 2 32 := by
  obtain ⟨octets, hread, hn⟩ := Option.bind_eq_some_iff.1 h
  split at hn
  · rename_i hlength
    cases hn
    have hoctets : ∀ octet ∈ octets, octet < 256 := by
      intro octet ho
      obtain ⟨piece, -, hpiece⟩ := (exists_of_mapM hread).2 octet ho
      exact octet?_lt hpiece
    have hlt := ofDigits_lt hoctets
    rw [hlength] at hlt
    exact hlt
  · cases hn

/-- The parts of one side of a gap as they are written: an empty side leaves an empty part. -/
def side (parts : List (List Char)) : List (List Char) :=
  if parts = [] then [[]] else parts

private theorem side_ne_nil (parts : List (List Char)) : side parts ≠ [] := by
  unfold side
  split <;> simp_all

private theorem join_side (sep : Char) (parts : List (List Char)) : join sep (side parts) = join sep parts := by
  unfold side
  split <;> simp_all [join]

private theorem mem_side {parts : List (List Char)} {part : List Char} (h : part ∈ side parts) :
    part = [] ∨ part ∈ parts := by
  unfold side at h
  split at h
  · exact .inl (List.mem_singleton.1 h)
  · exact .inr h

private theorem length_side_le (parts : List (List Char)) : (side parts).length ≤ max 1 parts.length := by
  unfold side
  split
  · exact Nat.le_max_left 1 _
  · exact Nat.le_max_right 1 _

variable {parts before after : List (List Char)}

private theorem length_side_of_getElem? (hparts : [] ∉ parts) {i : Nat} (h : (side parts)[i]? = some []) :
    (side parts).length = 1 := by
  unfold side at h ⊢
  split at h
  · simp_all
  · exact absurd (List.mem_of_getElem? h) hparts

private theorem gaps_eq_nil (hparts : [] ∉ parts) : gaps parts = [] := by
  refine List.filter_eq_nil_iff.2 fun i _ => ?_
  cases hi : parts[i]? with
  | none => simp
  | some part =>
    have hne : part ≠ [] := by
      rintro rfl
      exact hparts (List.mem_of_getElem? hi)
    simp [hne]

private theorem gaps_eq_singleton {gap : Nat} (hpos : 0 < gap) (hlt : gap < parts.length - 1)
    (hgap : parts[gap]? = some [])
    (honly : ∀ i, 0 < i → i < parts.length - 1 → parts[i]? = some [] → i = gap) :
    gaps parts = [gap] := by
  have hplace : ∀ i ∈ List.range (parts.length - 1),
      (decide (i > 0) && (parts[i]?).any List.isEmpty) = decide (i = gap) := by
    intro i hi
    rw [Bool.eq_iff_iff]
    simp only [Bool.and_eq_true, decide_eq_true_eq, Option.any_eq_true, List.isEmpty_iff]
    constructor
    · rintro ⟨hi0, part, hpart, rfl⟩
      exact honly i hi0 (List.mem_range.1 hi) hpart
    · rintro rfl
      exact ⟨hpos, [], hgap, rfl⟩
  rw [gaps, List.filter_congr hplace, List.filter_eq,
    List.count_eq_one_of_mem List.nodup_range (List.mem_range.2 hlt), List.replicate_one]

private theorem gaps_side (hbefore : [] ∉ before) (hafter : [] ∉ after) :
    gaps (side before ++ [] :: side after) = [(side before).length] := by
  have hfront : 0 < (side before).length := List.length_pos_iff.2 (side_ne_nil before)
  have hback : 0 < (side after).length := List.length_pos_iff.2 (side_ne_nil after)
  have hlength : (side before ++ [] :: side after).length - 1 =
      (side before).length + (side after).length := by
    simp only [List.length_append, List.length_cons]
    omega
  refine gaps_eq_singleton hfront (by omega) (by simp) ?_
  intro i hpos hlt hempty
  rcases Nat.lt_trichotomy i (side before).length with h | h | h
  · rw [List.getElem?_append_left h] at hempty
    have := length_side_of_getElem? hbefore hempty
    omega
  · exact h
  · obtain ⟨j, rfl⟩ : ∃ j, i = (side before).length + (j + 1) :=
      ⟨i - (side before).length - 1, by omega⟩
    rw [List.getElem?_append_right (by omega), Nat.add_sub_cancel_left, List.getElem?_cons_succ] at hempty
    have := length_side_of_getElem? hafter hempty
    omega

private theorem aroundGap?_side (hbefore : [] ∉ before) (hafter : [] ∉ after)
    (hshort : before.length + after.length < 8) :
    aroundGap? (side before ++ [] :: side after) (side before).length = some (before, after) := by
  have hdrop : (side before ++ [] :: side after).drop ((side before).length + 1) = side after := by
    rw [List.drop_append, List.drop_of_length_le (by omega)]
    simp
  have hhead : (side before).head?.any List.isEmpty = decide (before = []) := by
    cases before with
    | nil => rfl
    | cons first rest =>
      have hne : first ≠ [] := fun h => hbefore (h ▸ List.mem_cons_self)
      simp [side, hne]
  have hlast : (side after).getLast?.any List.isEmpty = decide (after = []) := by
    cases hafter' : after.getLast? with
    | none =>
      rw [List.getLast?_eq_none_iff] at hafter'
      subst hafter'
      rfl
    | some last =>
      have hmem := List.mem_of_getLast? hafter'
      have hne : last ≠ [] := fun h => hafter (h ▸ hmem)
      have hside : after ≠ [] := List.ne_nil_of_mem hmem
      simp [side, hside, hafter', hne]
  simp only [aroundGap?, List.take_left, hdrop, hhead, hlast]
  by_cases hb : before = [] <;> by_cases ha : after = [] <;> simp_all [side]

private theorem expandTail_of_plain (h : ∀ part ∈ parts, '.' ∉ part) : expandTail parts = some parts := by
  unfold expandTail
  split
  · rename_i last hlast
    simp [h last (List.mem_of_getLast? hlast)]
  · rfl

private theorem not_mem_toDigits {c : Char} (hc : hexDigit? c = none) (n : Nat) : c ∉ Nat.toDigits 16 n := by
  obtain ⟨digits, hread, -⟩ := mapM_toDigits (by decide) (fun _ => hexDigit?_digitChar) n
  intro hmem
  obtain ⟨d, -, hd⟩ := (exists_of_mapM hread).1 c hmem
  simp [hc] at hd

private theorem mapM_group? {groups : List Nat} (h : ∀ g ∈ groups, g < 0x10000) :
    (groups.map (Nat.toDigits 16)).mapM group? = some groups := by
  rw [mapM_eq_some_iff, List.map_map]
  exact List.map_congr_left fun g hg => group?_toDigits (h g hg)

private theorem toList_groupsText (groups : List Nat) :
    (groupsText groups).toList = join ':' (groups.map (Nat.toDigits 16)) := by
  rw [groupsText, String.toList_intercalate, join_eq_intercalate, List.map_map]
  congr 1
  exact List.map_congr_left fun g _ => String.toList_ofList

private theorem not_mem_groups {c : Char} (hc : hexDigit? c = none) (groups : List Nat) :
    ∀ part ∈ groups.map (Nat.toDigits 16), c ∉ part := by
  intro part hpart
  obtain ⟨g, -, rfl⟩ := List.mem_map.1 hpart
  exact not_mem_toDigits hc g

private theorem nil_not_mem_groups (groups : List Nat) : [] ∉ groups.map (Nat.toDigits 16) := by
  simp

private theorem readInet6?_groups {groups : List Nat} (hlength : groups.length = 8)
    (h : ∀ g ∈ groups, g < 0x10000) :
    readInet6? (join ':' (groups.map (Nat.toDigits 16))) = some (ofDigits 0x10000 groups) := by
  have hne : groups.map (Nat.toDigits 16) ≠ [] := List.ne_nil_of_length_pos (by simp [hlength])
  rw [readInet6?, split_join hne (not_mem_groups (by decide) groups)]
  simp [expandTail_of_plain (not_mem_groups (by decide) groups), gaps_eq_nil (nil_not_mem_groups groups),
    mapM_group? h, hlength]

private theorem readInet6?_gap {front back : List Nat} (hfront : ∀ g ∈ front, g < 0x10000)
    (hback : ∀ g ∈ back, g < 0x10000) (hshort : front.length + back.length < 8) :
    readInet6? (join ':' (front.map (Nat.toDigits 16)) ++ ':' :: ':' ::
        join ':' (back.map (Nat.toDigits 16))) =
      some (ofDigits 0x10000
        (front ++ List.replicate (8 - (front.length + back.length)) 0 ++ back)) := by
  let before := front.map (Nat.toDigits 16)
  let after := back.map (Nat.toDigits 16)
  let parts := side before ++ [] :: side after
  have htext : join ':' before ++ ':' :: ':' :: join ':' after = join ':' parts := by
    rw [join_append ':' (side_ne_nil before) (List.cons_ne_nil _ _), join_side]
    have hgap : join ':' ([] :: side after) = ':' :: join ':' after := by
      rw [← List.singleton_append, join_append ':' (List.cons_ne_nil _ _) (side_ne_nil after), join_side]
      rfl
    rw [hgap]
  have hplain {c : Char} (hc : hexDigit? c = none) : ∀ part ∈ parts, c ∉ part := by
    intro part hpart
    rw [List.mem_append, List.mem_cons] at hpart
    rcases hpart with hpart | rfl | hpart
    · rcases mem_side hpart with rfl | hpart
      · exact List.not_mem_nil
      · exact not_mem_groups hc front part hpart
    · exact List.not_mem_nil
    · rcases mem_side hpart with rfl | hpart
      · exact List.not_mem_nil
      · exact not_mem_groups hc back part hpart
  have hsides : before.length + after.length < 8 := by simpa [before, after] using hshort
  have hlow : 3 ≤ parts.length := by
    have hb := List.length_pos_iff.2 (side_ne_nil before)
    have ha := List.length_pos_iff.2 (side_ne_nil after)
    simp only [parts, List.length_append, List.length_cons]
    omega
  have hhigh : parts.length ≤ 9 := by
    have hb := length_side_le before
    have ha := length_side_le after
    simp only [parts, List.length_append, List.length_cons]
    omega
  have hparts : parts ≠ [] := List.ne_nil_of_length_pos (by omega)
  rw [htext, readInet6?, split_join hparts (hplain (by decide))]
  have hgaps : gaps parts = [(side before).length] :=
    gaps_side (nil_not_mem_groups front) (nil_not_mem_groups back)
  have haround : aroundGap? parts (side before).length = some (before, after) :=
    aroundGap?_side (nil_not_mem_groups front) (nil_not_mem_groups back) hsides
  simp [expandTail_of_plain (hplain (by decide)), hgaps, haround, before, after, mapM_group? hfront,
    mapM_group? hback, Nat.not_lt.2 hlow, Nat.not_lt.2 hhigh]

private theorem readInet6?_inet6Text {n : Nat} (h : n < Nat.pow 2 128) :
    readInet6? (inet6Text n).toList = some n := by
  have hgroups : ∀ g ∈ places 0x10000 8 n, g < 0x10000 := fun g => lt_of_mem_places (by decide)
  have hvalue : ofDigits 0x10000 (places 0x10000 8 n) = n := ofDigits_places h
  have hlength := length_places 0x10000 8 n
  have hsplit := groups_around_longestRun (places 0x10000 8 n)
  simp only [inet6Text]
  generalize places 0x10000 8 n = groups at hgroups hvalue hlength hsplit
  generalize longestRun groups = run at hsplit
  split
  · let front := groups.take run.start
    let back := groups.drop (run.start + run.length)
    have hfront : ∀ g ∈ front, g < 0x10000 := fun g hg => hgroups g (List.mem_of_mem_take hg)
    have hback : ∀ g ∈ back, g < 0x10000 := fun g hg => hgroups g (List.mem_of_mem_drop hg)
    have hcount : front.length + run.length + back.length = 8 := by
      have := congrArg List.length hsplit
      simp only [List.length_append, List.length_replicate, hlength] at this
      exact this.symm
    have hzeros : 8 - (front.length + back.length) = run.length := by omega
    have hread := readInet6?_gap hfront hback (by omega)
    rw [hzeros, ← hsplit, hvalue] at hread
    rw [String.toList_append, String.toList_append, toList_groupsText, toList_groupsText,
      List.append_assoc]
    exact hread
  · rw [toList_groupsText, readInet6?_groups hlength hgroups, hvalue]

theorem not_mem_inet6Text {c : Char} (hc : hexDigit? c = none) (hcolon : c ≠ ':') (n : Nat) :
    c ∉ (inet6Text n).toList := by
  have hgroups (groups : List Nat) : c ∉ (groupsText groups).toList := by
    rw [toList_groupsText]
    intro hmem
    rcases mem_join hmem with h | ⟨part, hpart, h⟩
    · exact hcolon h
    · exact not_mem_groups hc groups part hpart h
  simp only [inet6Text]
  split
  · simp [hgroups, hcolon]
  · exact hgroups _

theorem readInet6?_eq_none {cs : List Char} (h : ':' ∉ cs) : readInet6? cs = none := by
  rw [readInet6?, split_of_not_mem h]
  rfl

private theorem readInet?_eq_none_of_mem {cs : List Char} (h : ':' ∈ cs) : readInet? cs = none := by
  cases hread : readInet? cs with
  | none => rfl
  | some n => exact absurd (isDigit_of_readInet? hread ':' h) (by decide)

/-- An address that its text names: only an IPv6 address has a scope, which is not empty and holds
neither a percent sign nor a slash. -/
structure IsLegible (a : Address) : Prop where
  family : ∀ scope, a.scope = some scope → a.family = .inet6
  scope : ∀ scope, a.scope = some scope → scope ≠ "" ∧ '%' ∉ scope.toList ∧ '/' ∉ scope.toList

theorem isLegible_of_scope_eq_none {a : Address} (h : a.scope = none) : a.IsLegible :=
  ⟨fun _ hs => absurd (h.symm.trans hs) nofun, fun _ hs => absurd (h.symm.trans hs) nofun⟩

private theorem cutScope?_text {body : List Char} (hbody : '%' ∉ body) {scope : Option String}
    (h : ∀ s, scope = some s → s ≠ "" ∧ '%' ∉ s.toList) :
    cutScope? (body ++ ((scope.map ("%" ++ ·)).getD "").toList) = some (body, scope) := by
  cases scope with
  | none => simp [cutScope?, cut_of_not_mem hbody]
  | some s =>
    obtain ⟨hne, hpercent⟩ := h s rfl
    simp [cutScope?, cut_append_cons hbody, hne, hpercent]

theorem read_text {a : Address} (h : a.IsLegible) : Address.read a.text = .ok a := by
  obtain ⟨family, value, scope, hvalue⟩ := a
  cases family with
  | inet =>
    have hscope : scope = none := by
      cases scope with
      | none => rfl
      | some s => exact absurd (h.family s rfl) (by simp)
    subst hscope
    have hread : readFamily? .inet (inetText value) = some ⟨.inet, value, none, hvalue⟩ := by
      simp only [readFamily?, readInet?_inetText hvalue, Option.bind_eq_bind, Option.bind_some]
      exact dif_pos hvalue
    simp only [Address.read, Address.text, hread]
  | inet6 =>
    have hbody := readInet6?_inet6Text hvalue
    have hcolon : ':' ∈ (inet6Text value).toList := by
      refine Decidable.byContradiction fun h => ?_
      simp [readInet6?_eq_none h] at hbody
    have hcut : cutScope? ((inet6Text value).toList ++ ((scope.map ("%" ++ ·)).getD "").toList) =
        some ((inet6Text value).toList, scope) :=
      cutScope?_text (not_mem_inet6Text (by decide) (by decide) value)
        fun s hs => ⟨(h.scope s hs).1, (h.scope s hs).2.1⟩
    have hslash : '/' ∉ (inet6Text value).toList ++ ((scope.map ("%" ++ ·)).getD "").toList := by
      rw [List.mem_append, not_or]
      refine ⟨not_mem_inet6Text (by decide) (by decide) value, ?_⟩
      cases scope with
      | none => simp
      | some s => simpa using (h.scope s rfl).2.2
    have hinet : readFamily? .inet (inet6Text value ++ (scope.map ("%" ++ ·)).getD "") = none := by
      have hmem : ':' ∈ (inet6Text value ++ (scope.map ("%" ++ ·)).getD "").toList := by
        rw [String.toList_append]
        exact List.mem_append_left _ hcolon
      rw [readFamily?, readInet?_eq_none_of_mem hmem]
      rfl
    have hinet6 : readFamily? .inet6 (inet6Text value ++ (scope.map ("%" ++ ·)).getD "") =
        some ⟨.inet6, value, scope, hvalue⟩ := by
      simp only [readFamily?, String.contains_char_eq, String.toList_append, hslash, hcut, hbody,
        decide_false, Option.bind_eq_bind, Option.bind_some]
      exact dif_pos hvalue
    simp only [Address.read, Address.text, hinet, hinet6]

theorem cutScope?_eq_some {cs body : List Char} {scope : Option String}
    (h : cutScope? cs = some (body, scope)) :
    (∀ c ∈ body, c ∈ cs) ∧
      ∀ s, scope = some s → s ≠ "" ∧ '%' ∉ s.toList ∧ ∀ c ∈ s.toList, c ∈ cs := by
  have hcs := append_cut '%' cs
  unfold cutScope? at h
  split at h
  · rename_i hcut
    cases h
    rw [hcut] at hcs
    refine ⟨fun c hc => ?_, nofun⟩
    rw [← hcs]
    exact List.mem_append_left _ hc
  · rename_i scope' hcut
    split at h
    · cases h
    · rename_i hscope
      cases h
      rw [hcut] at hcs
      simp only [Bool.or_eq_true, List.isEmpty_iff, List.contains_eq_mem, decide_eq_true_eq,
        not_or] at hscope
      refine ⟨fun c hc => ?_, ?_⟩
      · rw [← hcs]
        exact List.mem_append_left _ hc
      · rintro s ⟨⟩
        refine ⟨by simpa using hscope.1, by simpa using hscope.2, fun c hc => ?_⟩
        rw [← hcs]
        rw [String.toList_ofList] at hc
        exact List.mem_append_right _ (List.mem_cons_of_mem _ hc)

/-- What is read as an address of a family is one, its text names it, and the text is no address of the
other family. -/
theorem readFamily?_spec {family : Family} {text : String} {a : Address}
    (h : readFamily? family text = some a) :
    a.family = family ∧ a.IsLegible ∧ Address.read text = .ok a := by
  cases family with
  | inet =>
    obtain ⟨n, -, hn⟩ := Option.bind_eq_some_iff.1 h
    obtain ⟨hfamily, -, hscope⟩ := ofNat?_eq_some_iff.1 hn
    exact ⟨hfamily, isLegible_of_scope_eq_none hscope, by rw [Address.read, h]⟩
  | inet6 =>
    have hread := h
    simp only [readFamily?, String.contains_char_eq, decide_eq_true_eq] at h
    split at h
    · cases h
    · rename_i hslash
      obtain ⟨⟨body, scope⟩, hcut, hbody⟩ := Option.bind_eq_some_iff.1 h
      obtain ⟨n, hn6, hn⟩ := Option.bind_eq_some_iff.1 hbody
      obtain ⟨hfamily, -, rfl⟩ := ofNat?_eq_some_iff.1 hn
      obtain ⟨hmem, hscope⟩ := cutScope?_eq_some hcut
      refine ⟨hfamily, ⟨fun _ _ => hfamily, fun s hs => ?_⟩, ?_⟩
      · obtain ⟨hne, hpercent, hs⟩ := hscope s hs
        exact ⟨hne, hpercent, fun hc => hslash (hs _ hc)⟩
      · have hcolon : ':' ∈ body := by
          refine Decidable.byContradiction fun hc => ?_
          simp [readInet6?_eq_none hc] at hn6
        have hinet : readFamily? .inet text = none := by
          rw [readFamily?, readInet?_eq_none_of_mem (hmem _ hcolon)]
          rfl
        rw [Address.read, hinet, hread]

theorem exists_readFamily? {text : String} {a : Address} (h : Address.read text = .ok a) :
    ∃ family, readFamily? family text = some a := by
  unfold Address.read at h
  split at h
  · rename_i hinet
    cases h
    exact ⟨.inet, hinet⟩
  · split at h
    · rename_i hinet6
      cases h
      exact ⟨.inet6, hinet6⟩
    · cases h

theorem isLegible_of_read {text : String} {a : Address} (h : Address.read text = .ok a) :
    a.IsLegible := by
  obtain ⟨family, hread⟩ := exists_readFamily? h
  exact (readFamily?_spec hread).2.1

end Address

end PowerDiscovery
