import Mathlib.Data.List.Induction
import PowerDiscovery.Proofs.Budget.Calls

/-! # Who owns the semaphore at the gate

A budget is called and its value is assigned, while others put semaphores in force and take them away.  The
budget takes away only what it has made, and leaves nothing of its own at the gate when it is closed. -/

namespace PowerDiscovery.Budget

/-- What happens at a budget and its gate: a call or an assignment of the budget, or others who put a new
semaphore in force, or one that there is already, or take away the one in force. -/
inductive Act where
  | call (c : Call)
  | assign (value : Count)
  | bring (slots : Count)
  | put (there : Semaphore)
  | takeAway

namespace AtGate

def act (s : AtGate) : Act → AtGate × Answer
  | .call c => s.call c
  | .assign value => ({ s with budget.value := value }, .nothing)
  | .bring slots => ({ s with gate := if slots.amount < 0 then s.gate else s.gate.install slots }, .nothing)
  | .put there => if there.stamp < s.gate.issued then ({ s with gate.installed := some there }, .nothing)
    else (s, .nothing)
  | .takeAway => ({ s with gate := s.gate.remove }, .nothing)

def through (s : AtGate) (acts : List Act) : AtGate := acts.foldl (fun s a => (s.act a).1) s

/-- The semaphores that the budget makes in the course of some acts. -/
def mine (s : AtGate) : List Act → List Semaphore
  | [] => []
  | a :: acts => (s.act a).2.semaphore?.toList ++ (s.act a).1.mine acts

@[simp] theorem through_nil (s : AtGate) : s.through [] = s := rfl

private theorem through_concat (s : AtGate) (acts : List Act) (a : Act) :
    s.through (acts ++ [a]) = ((s.through acts).act a).1 := by
  simp [through]

private theorem mine_append (s : AtGate) (acts more : List Act) :
    s.mine (acts ++ more) = s.mine acts ++ (s.through acts).mine more := by
  induction acts generalizing s with
  | nil => rfl
  | cons first acts ih =>
    simp only [List.cons_append, mine, ih, List.append_assoc]
    rfl

private theorem mine_concat (s : AtGate) (acts : List Act) (a : Act) :
    s.mine (acts ++ [a]) = s.mine acts ++ ((s.through acts).act a).2.semaphore?.toList := by
  simp [mine_append, mine]

/-! ### The last call that opened or closed -/

/-- Whether some acts open the budget and do not close it afterwards. -/
def LastOpened (s : AtGate) (acts : List Act) : Prop :=
  ∃ before later, acts = before ++ .call .openUp :: later ∧
    ((s.through before).call .openUp).2.semaphore?.isSome = true ∧ .call .close ∉ later

variable {s : AtGate} {acts : List Act} {a : Act}

private theorem not_lastOpened_nil : ¬ s.LastOpened [] := by
  rintro ⟨before, later, hacts, _⟩
  simp at hacts

private theorem LastOpened.of_opens (h : ((s.through acts).call .openUp).2.semaphore?.isSome = true) :
    s.LastOpened (acts ++ [.call .openUp]) :=
  ⟨acts, [], rfl, h, List.not_mem_nil⟩

private theorem not_lastOpened_close : ¬ s.LastOpened (acts ++ [.call .close]) := by
  rintro ⟨before, later, hacts, _, hlater⟩
  rcases later.eq_nil_or_concat with rfl | ⟨later, last, rfl⟩
  · have hlast := (List.append_inj' hacts rfl).2
    cases hlast
  · rw [List.concat_eq_append, ← List.cons_append, ← List.append_assoc] at hacts
    have hlast := (List.append_inj' hacts rfl).2
    apply hlater
    simp [← hlast]

private theorem lastOpened_concat (hclose : a ≠ .call .close)
    (hopen : ((s.through acts).act a).2.semaphore? = none) :
    s.LastOpened (acts ++ [a]) ↔ s.LastOpened acts := by
  constructor
  · rintro ⟨before, later, hacts, hopened, hlater⟩
    rcases later.eq_nil_or_concat with rfl | ⟨later, last, rfl⟩
    · -- The opening cannot be the last act, which has made no semaphore.
      obtain ⟨rfl, hlast⟩ := List.append_inj' hacts rfl
      obtain rfl := List.cons.inj hlast |>.1
      rw [act] at hopen
      simp [hopen] at hopened
    · rw [List.concat_eq_append, ← List.cons_append, ← List.append_assoc] at hacts
      have hbefore := (List.append_inj' hacts rfl).1
      refine ⟨before, later, hbefore, hopened, ?_⟩
      intro hmem
      apply hlater
      simp [hmem]
  · rintro ⟨before, later, hacts, hopened, hlater⟩
    refine ⟨before, later ++ [a], by simp [hacts], hopened, ?_⟩
    simp [hlater, hclose.symm]

/-! ### What each act does to the budget's own semaphore -/

/-- An act opens the budget with a new semaphore, or closes it, or leaves its own semaphore alone. -/
private theorem act_cases (s : AtGate) (a : Act) :
    (a = .call .openUp ∧ s.budget.own = none ∧ s.act a = (s.opened, .semaphore s.granted)) ∨
      (a = .call .close ∧ s.act a = (s.close.value, .nothing)) ∨
      (a ≠ .call .close ∧ (s.act a).2.semaphore? = none ∧ (s.act a).1.budget.own = s.budget.own) := by
  cases a with
  | call c =>
    rcases s.call_cases c with ⟨rfl, hclosed, hcall⟩ | ⟨rfl, hcall⟩ | ⟨hclose, hanswer, hown, _⟩
    · exact .inl ⟨rfl, hclosed, hcall⟩
    · exact .inr (.inl ⟨rfl, hcall⟩)
    · exact .inr (.inr ⟨fun heq => hclose (Act.call.inj heq), hanswer, hown⟩)
  | put there =>
    refine .inr (.inr ⟨nofun, ?_⟩)
    simp only [act]
    split <;> exact ⟨rfl, rfl⟩
  | assign value => exact .inr (.inr ⟨nofun, rfl, rfl⟩)
  | bring slots => exact .inr (.inr ⟨nofun, rfl, rfl⟩)
  | takeAway => exact .inr (.inr ⟨nofun, rfl, rfl⟩)

private theorem isOpen_through (hnew : s.budget.own = none) (acts : List Act) :
    (s.through acts).budget.isOpen = true ↔ s.LastOpened acts := by
  induction acts using List.reverseRecOn with
  | nil =>
    have hclosed : s.budget.isOpen = false := by simp [isOpen, hnew]
    simp [hclosed, not_lastOpened_nil]
  | append_singleton acts a ih =>
    rw [through_concat]
    rcases (s.through acts).act_cases a with ⟨rfl, _, hact⟩ | ⟨rfl, hact⟩ | ⟨hclose, hanswer, hown⟩
    · have hopened : s.LastOpened (acts ++ [.call .openUp]) := by
        apply LastOpened.of_opens
        rw [act] at hact
        simp [hact, Answer.semaphore?]
      simp [hact, hopened, opened, isOpen]
    · simp [hact, not_lastOpened_close, close_eq, isOpen]
    · rw [lastOpened_concat hclose hanswer, ← ih]
      simp [isOpen, hown]

/-! ### The semaphores that the budget has made -/

/-- What ties a budget to the semaphores that it has made: no stamp of theirs is given out again, and its own
semaphore is one of them. -/
structure Holds (s : AtGate) (mine : List Semaphore) : Prop where
  stamp_lt : ∀ x ∈ mine, x.stamp < s.gate.issued
  own_mem : ∀ x, s.budget.own = some x → x ∈ mine

private theorem issued_le (s : AtGate) (a : Act) : s.gate.issued ≤ (s.act a).1.gate.issued := by
  cases a with
  | call c =>
    rcases s.call_cases c with ⟨rfl, _, hcall⟩ | ⟨rfl, hcall⟩ | ⟨_, _, _, hgate⟩
    · simp [act, hcall, opened, Gate.install]
    · simp only [act, hcall, close_eq]
      split <;> simp [Gate.remove]
    · simp [act, hgate]
  | assign value => simp [act]
  | bring slots =>
    simp only [act]
    split <;> simp [Gate.install]
  | put there =>
    simp only [act]
    split <;> simp
  | takeAway => simp [act, Gate.remove]

theorem Holds.step {mine : List Semaphore} (h : s.Holds mine) (a : Act) :
    (s.act a).1.Holds (mine ++ (s.act a).2.semaphore?.toList) := by
  have hearlier : ∀ x ∈ mine, x.stamp < (s.act a).1.gate.issued := by
    intro x hx
    exact Nat.lt_of_lt_of_le (h.stamp_lt x hx) (s.issued_le a)
  rcases s.act_cases a with ⟨rfl, _, hact⟩ | ⟨rfl, hact⟩ | ⟨_, hanswer, hown⟩
  · rw [hact] at hearlier ⊢
    constructor
    · intro x hx
      simp only [Answer.semaphore?, Option.toList_some, List.mem_append, List.mem_singleton] at hx
      rcases hx with hx | rfl
      · exact hearlier x hx
      · exact Nat.lt_succ_self _
    · intro x hx
      obtain rfl : s.granted = x := Option.some.inj hx
      simp [Answer.semaphore?]
  · rw [hact] at hearlier ⊢
    simp only [Answer.semaphore?, Option.toList_none, List.append_nil]
    refine ⟨hearlier, ?_⟩
    intro x hx
    simp [close_eq] at hx
  · rw [hanswer, Option.toList_none, List.append_nil]
    refine ⟨hearlier, ?_⟩
    intro x hx
    exact h.own_mem x (hown ▸ hx)

private theorem holds_through (hnew : s.budget.own = none) (acts : List Act) :
    (s.through acts).Holds (s.mine acts) := by
  induction acts using List.reverseRecOn with
  | nil =>
    constructor
    · intro x hx
      cases hx
    · intro x hx
      simp [hnew] at hx
  | append_singleton acts a ih =>
    rw [through_concat, mine_concat]
    exact ih.step a

/-- Whether, of some semaphores, at most the budget's own one stands at the gate. -/
def OnlyOwn (s : AtGate) (mine : List Semaphore) : Prop :=
  ∀ x ∈ mine, s.gate.installed = some x → s.budget.own = some x

theorem OnlyOwn.step {mine : List Semaphore} (h : s.OnlyOwn mine) (hholds : s.Holds mine)
    (hput : ∀ there ∈ mine, a ≠ .put there) :
    (s.act a).1.OnlyOwn (mine ++ (s.act a).2.semaphore?.toList) := by
  intro x hx hinstalled
  cases a with
  | call c =>
    rw [act] at hx hinstalled ⊢
    rcases s.call_cases c with ⟨rfl, _, hcall⟩ | ⟨rfl, hcall⟩ | ⟨_, hanswer, hown, hgate⟩
    · rw [hcall] at hinstalled ⊢
      exact hinstalled
    · rw [hcall] at hx hinstalled
      simp only [Answer.semaphore?, Option.toList_none, List.append_nil] at hx
      simp only [close_eq] at hinstalled
      -- What stands at the gate after closing stood there before, so it was the budget's own and has gone.
      split at hinstalled
      · cases hinstalled
      · rename_i hkept
        have hown := h x hx hinstalled
        exact absurd ⟨by simp [isOpen, hown], hinstalled.trans hown.symm⟩ hkept
    · rw [hanswer, Option.toList_none, List.append_nil] at hx
      rw [hgate] at hinstalled
      rw [hown]
      exact h x hx hinstalled
  | assign value => exact h x (by simpa [act, Answer.semaphore?] using hx) hinstalled
  | bring slots =>
    have hmine : x ∈ mine := by simpa [act, Answer.semaphore?] using hx
    simp only [act] at hinstalled
    split at hinstalled
    · exact h x hmine hinstalled
    · obtain rfl : s.gate.next slots = x := Option.some.inj hinstalled
      exact absurd (hholds.stamp_lt _ hmine) (Nat.lt_irrefl _)
  | put there =>
    simp only [act] at hx hinstalled ⊢
    split at hinstalled
    · rename_i hthere
      obtain rfl : there = x := Option.some.inj hinstalled
      have hmine : there ∈ mine := by simpa [hthere, Answer.semaphore?] using hx
      exact absurd rfl (hput there hmine)
    · rename_i hthere
      have hmine : x ∈ mine := by simpa [hthere, Answer.semaphore?] using hx
      rw [if_neg hthere]
      exact h x hmine hinstalled
  | takeAway => cases hinstalled

/-- Whether nobody puts one of the budget's semaphores in force again. -/
def NonePutBack (s : AtGate) (acts : List Act) : Prop :=
  ∀ before there later, acts = before ++ .put there :: later → there ∉ s.mine before

private theorem onlyOwn_through (hnew : s.budget.own = none) (acts : List Act) (hput : s.NonePutBack acts) :
    (s.through acts).OnlyOwn (s.mine acts) := by
  induction acts using List.reverseRecOn with
  | nil =>
    intro x hx
    cases hx
  | append_singleton acts a ih =>
    have hbefore : s.NonePutBack acts := by
      intro before there later hacts
      exact hput before there (later ++ [a]) (by simp [hacts])
    rw [through_concat, mine_concat]
    apply (ih hbefore).step (holds_through hnew acts)
    rintro there hmem rfl
    exact hput acts there [] rfl hmem

/-! ### Opening and closing -/

private theorem refused_alreadyOpen_iff : (s.call .openUp).2 = .refused .alreadyOpen ↔ s.budget.isOpen = true := by
  rw [call_openUp]
  split
  · rename_i hopen
    simp [hopen]
  · rename_i hclosed
    split <;> simp [hclosed]

private theorem refused_negative_iff : (s.call .openUp).2 = .refused .negative ↔
    s.budget.isOpen = false ∧ s.budget.value.amount < 0 := by
  rw [call_openUp]
  split
  · rename_i hopen
    simp [hopen]
  · rename_i hclosed
    split <;> simp_all

private theorem call_openUp_of_refused {e : Error} (h : (s.call .openUp).2 = .refused e) :
    (s.call .openUp).1 = s := by
  rcases s.call_cases .openUp with ⟨_, _, hcall⟩ | ⟨hclose, _⟩ | _
  · rw [hcall] at h
    cases h
  · cases hclose
  · rw [call_openUp] at h ⊢
    split
    · rfl
    · split
      · rfl
      · simp_all

private theorem Holds.installed_close {mine : List Semaphore} (h : s.Holds mine) {foreign : Semaphore}
    (hforeign : foreign ∉ mine) (hinstalled : s.gate.installed = some foreign) :
    (s.call .close).1.gate.installed = some foreign := by
  simp only [call, close_eq]
  split
  · rename_i hown
    exact absurd (h.own_mem foreign (hown.2.symm.trans hinstalled)) hforeign
  · exact hinstalled

/-- Whatever is done to a new budget and around it, it is open exactly if it has been opened and not closed
since.  Opening is refused only when it is open or its value is negative, and then changes nothing; otherwise
it makes a new semaphore and puts it in force.  Closing keeps in force what the budget has not made.  A closed
budget has nothing of its own in force, unless somebody has put it back. -/
theorem semaphore_owned (hnew : s.budget.own = none) (acts : List Act) :
    let t := s.through acts
    (t.budget.isOpen = true ↔ s.LastOpened acts) ∧
      ((t.call .openUp).2 = .refused .alreadyOpen ↔ t.budget.isOpen = true) ∧
      ((t.call .openUp).2 = .refused .negative ↔ t.budget.isOpen = false ∧ t.budget.value.amount < 0) ∧
      (∀ e, (t.call .openUp).2 = .refused e → (t.call .openUp).1 = t) ∧
      (t.budget.isOpen = false → 0 ≤ t.budget.value.amount → ∃ own,
        t.call .openUp = (t.opened, .semaphore own) ∧ own ∉ s.mine acts ∧
        t.opened.budget.own = some own ∧ t.opened.gate.installed = some own) ∧
      (∀ foreign, foreign ∉ s.mine acts → t.gate.installed = some foreign →
        (t.call .close).1.gate.installed = some foreign) ∧
      (s.NonePutBack acts → t.budget.isOpen = false → ∀ own ∈ s.mine acts, t.gate.installed ≠ some own) := by
  intro t
  have hholds := holds_through hnew acts
  refine ⟨isOpen_through hnew acts, refused_alreadyOpen_iff, refused_negative_iff, ?_, ?_, ?_, ?_⟩
  · intro e
    exact call_openUp_of_refused
  · intro hclosed hslots
    refine ⟨t.granted, t.call_openUp_of_closed hclosed hslots, ?_, rfl, rfl⟩
    intro hmem
    exact Nat.lt_irrefl _ (hholds.stamp_lt _ hmem)
  · intro foreign
    exact hholds.installed_close
  · intro hput hclosed own hmem hinstalled
    have hown := onlyOwn_through hnew acts hput own hmem hinstalled
    change t.budget.own = some own at hown
    simp [isOpen, hown] at hclosed

/-- A budget whose semaphore has been replaced is closed, and refuses to open with a negative value.  The
foreign semaphore, taken away and put back in between, stays. -/
theorem semaphore_owned_replaced :
    let s : AtGate := ⟨{ value := .number 5 }, {}⟩
    let foreign : Semaphore := ⟨1, .number 7⟩
    let acts : List Act := [.call .openUp, .bring (.number 7), .takeAway, .put foreign, .call .close,
      .assign (.number (-1))]
    s.budget.own = none ∧ s.NonePutBack acts ∧ s.mine acts = [⟨0, .number 5⟩] ∧
      (s.through acts).gate.installed = some foreign ∧
      ((s.through acts).call .openUp).2 = .refused .negative ∧
      ∀ own ∈ s.mine acts, (s.through acts).gate.installed ≠ some own := by
  intro s foreign acts
  have hmine : s.mine acts = [⟨0, .number 5⟩] := by rfl
  have hput : s.NonePutBack acts := by
    intro before there later hacts hmem
    have hthere : Act.put there ∈ acts := by simp [hacts]
    have hforeign : there = foreign := by simpa [acts] using hthere
    have hown : there ∈ s.mine acts := by
      rw [hacts, mine_append]
      exact List.mem_append_left _ hmem
    rw [hmine, hforeign] at hown
    simp [foreign] at hown
  obtain ⟨_, _, hrefused, _, _, _, hclosed⟩ := semaphore_owned (s := s) rfl acts
  exact ⟨rfl, hput, hmine, rfl, hrefused.mpr ⟨rfl, by decide⟩, hclosed hput rfl⟩

end AtGate

end PowerDiscovery.Budget
