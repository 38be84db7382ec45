import Mathlib.Data.Int.Order.Basic
import PowerDiscovery.Discovery.Ipmi
import PowerDiscovery.Proofs.Address.PrefixLength
import PowerDiscovery.Proofs.Discovery.CompletionOrder
import PowerDiscovery.Proofs.Discovery.Losses

/-! # Inventories of management controllers

A scan of a range has one device for each power supply that could be read, in the order of the addresses and
at one address in the order of the numbers.  A unit that cannot be read and a controller that fails take no
other device away, and it does not matter in which order a controller keeps its units.  A controller fails as
well if a number has too many digits to be written where one has to be. -/

namespace PowerDiscovery.Ipmi

def isSupply (fru : Fru) : Bool :=
  match fru.info with
  | .ok info => isPowerSupply fru.name info
  | .error _ => false

private theorem isSupply_iff {fru : Fru} :
    isSupply fru = true ↔ ∃ info, fru.info = .ok info ∧ isPowerSupply fru.name info = true := by
  unfold isSupply
  cases fru.info with
  | error f => simp
  | ok info => simp

/-! ### Inventories -/

variable {frus frus' : List Fru}

private theorem latest_of_nodup (h : (frus.map Fru.id).Nodup) : latest frus = frus := by
  induction frus with
  | nil => rfl
  | cons fru frus ih =>
    obtain ⟨hfirst, hothers⟩ := List.nodup_cons.mp h
    have hnone : (frus.any fun later => decide (later.id = fru.id)) = false := by
      rw [List.any_eq_false]
      intro later hlater hid
      exact hfirst (List.mem_map.mpr ⟨later, hlater, of_decide_eq_true hid⟩)
    rw [latest, hnone, if_neg Bool.false_ne_true, ih hothers]

private theorem inventory_perm (h : (frus.map Fru.id).Nodup) : (inventory frus).Perm frus := by
  rw [inventory, latest_of_nodup h]
  exact List.mergeSort_perm _ _

private theorem inventory_ascending (h : (frus.map Fru.id).Nodup) :
    (inventory frus).Pairwise fun x y => x.id < y.id := by
  rw [inventory, latest_of_nodup h]
  exact mergeSort_key_ascending Fru.id h

private theorem inventory_congr (h : (frus.map Fru.id).Nodup) (hperm : frus.Perm frus') :
    inventory frus = inventory frus' := by
  have h' : (frus'.map Fru.id).Nodup := (hperm.map Fru.id).nodup_iff.mp h
  rw [inventory, inventory, latest_of_nodup h, latest_of_nodup h']
  exact mergeSort_key_congr Fru.id h hperm

/-! ### Numbers that have to be written -/

/-- Whether a session gets past a unit: it has to write the number of one that cannot be read, and the product
of one that does not have the name of a power supply. -/
def Told (fru : Fru) : Prop :=
  match fru.info with
  | .error _ => Numeral.isWritable fru.id = true
  | .ok info => markers.any (mentions · (fru.name ++ " ")) = true ∨
      ∀ product, Value.lookup? info "Product name" = some product → product.isWritable = true

private theorem written_yields (v : Value) : Yields v.written (v.isWritable = true) v.display := .accept _ _ _

private theorem shownNumber_yields (id : Int) :
    Yields (shownNumber id) (Numeral.isWritable id = true) (toString id) := by
  have hwritten := written_yields (.int id)
  rwa [Value.isWritable] at hwritten

private theorem describesSupply_yields (name : String) (info : List (String × Value)) :
    Yields (describesSupply name info) (markers.any (mentions · (name ++ " ")) = true ∨
        ∀ product, Value.lookup? info "Product name" = some product → product.isWritable = true)
      (isPowerSupply name info) := by
  have hjudged : ∃ p found, Yields (describesSupply name info) p found ∧
      (p ↔ markers.any (mentions · (name ++ " ")) = true ∨
        ∀ product, Value.lookup? info "Product name" = some product → product.isWritable = true) := by
    unfold describesSupply
    split
    · rename_i hname
      exact ⟨_, _, .pure true, by simp [hname]⟩
    · rename_i hname
      cases hproduct : Value.lookup? info "Product name" with
      | none => exact ⟨_, _, .pure false, by simp⟩
      | some product => exact ⟨_, _, (written_yields product).map _, by simp [hname]⟩
  obtain ⟨p, found, hyields, hp⟩ := hjudged
  refine (Yields.congr ?_ hp)
  by_cases h : p
  · have hfound : isPowerSupply name info = found := by rw [isPowerSupply, hyields.ok h]
    rwa [hfound]
  · exact ⟨fun hp => absurd hp h, hyields.error⟩

private theorem supplies_yields (host : Option String) (frus : List Fru) :
    Yields (supplies host frus).run.value (∀ fru ∈ frus, Told fru) ((frus.filter isSupply).map Fru.id) := by
  induction frus with
  | nil => exact (Yields.pure []).congr (by simp)
  | cons fru frus ih =>
    cases hinfo : fru.info with
    | error f =>
      have hlost : isSupply fru = false := by simp only [isSupply, hinfo]
      have hstep : (supplies host (fru :: frus)).run.value =
          (shownNumber fru.id >>= fun _ => (supplies host frus).run.value) := by
        simp only [supplies, hinfo, run_bind_value, Attempt.ofExcept_value]
        rfl
      rw [hstep, List.filter_cons, hlost, if_neg Bool.false_ne_true]
      exact ((shownNumber_yields fru.id).bind ih).congr (by simp [Told, hinfo])
    | ok info =>
      have hread : isSupply fru = isPowerSupply fru.name info := by simp only [isSupply, hinfo]
      have hstep : (supplies host (fru :: frus)).run.value =
          (describesSupply fru.name info >>= fun found => (supplies host frus).run.value >>= fun others =>
            pure (if found then fru.id :: others else others)) := by
        simp only [supplies, hinfo, run_bind_value, Attempt.ofExcept_value]
        rfl
      have hfound : ((fru :: frus).filter isSupply).map Fru.id =
          if isPowerSupply fru.name info then fru.id :: (frus.filter isSupply).map Fru.id
          else (frus.filter isSupply).map Fru.id := by
        rw [List.filter_cons, hread]
        split <;> rfl
      rw [hstep, hfound]
      exact ((describesSupply_yields fru.name info).bind (ih.map _)).congr (by simp [Told, hinfo])

variable {site other : Site} {timeout : Value} {o : IpmiOptions} {host : String}

def OptionsFit (o : IpmiOptions) : Prop := o.version.isText "2.0" = true → o.cipherSuite.isWritable = true

private theorem cipherOption_yields (o : IpmiOptions) :
    ∃ option, Yields (cipherOption o) (OptionsFit o) option := by
  unfold cipherOption OptionsFit
  split
  · rename_i hversion
    exact ⟨_, ((written_yields o.cipherSuite).map _).congr (by simp [hversion])⟩
  · rename_i hversion
    exact ⟨_, (Yields.pure []).congr (by simp [hversion])⟩

private theorem exists_deviceOptions (o : IpmiOptions) :
    ∃ options, ∀ host, Yields (deviceOptions (some host) o) (OptionsFit o) options := by
  obtain ⟨option, hoption⟩ := cipherOption_yields o
  exact ⟨_, fun host => hoption.map _⟩

def supplyOf (options : DeviceOptions) (host : String) (id : Int) : Device where
  backend := .ipmi
  driver := "nut-ipmipsu"
  port := s!"id{id}@{host}"
  options := options

section

variable {options : DeviceOptions}

private theorem device_yields (hoptions : Yields (deviceOptions (some host) o) (OptionsFit o) options)
    (hhost : host ≠ "") (id : Int) : Yields (device (some host) o id)
      (Numeral.isWritable id = true ∧ OptionsFit o) (supplyOf options host id) := by
  have hempty : host.isEmpty = false := by simpa using hhost
  have hstep : device (some host) o id = (shownNumber id >>= fun shown => deviceOptions (some host) o >>=
      fun options => pure { supplyOf options host id with port := s!"id{shown}@{host}" }) := by
    simp only [device, hempty, supplyOf]
    rfl
  rw [hstep]
  exact (shownNumber_yields id).bind (hoptions.map _)

private theorem mapM_device_yields (hoptions : Yields (deviceOptions (some host) o) (OptionsFit o) options)
    (hhost : host ≠ "") (ids : List Int) : Yields (ids.mapM (device (some host) o))
      (∀ id ∈ ids, Numeral.isWritable id = true ∧ OptionsFit o) (ids.map (supplyOf options host)) := by
  induction ids with
  | nil => exact (Yields.pure []).congr (by simp)
  | cons id ids ih =>
    rw [List.mapM_cons, List.map_cons]
    exact ((device_yields hoptions hhost id).bind (ih.map _)).congr (by rw [List.forall_mem_cons])

end

/-! ### One controller -/

/-- Whether a session with a controller comes to its units, and every number can be written that has to be. -/
structure Lists (site : Site) (timeout : Value) (o : IpmiOptions) (host : String) (frus : List Fru) :
    Prop where
  level : ∃ level, privilege o.privilegeLevel = .ok level
  waits : timeout.patience = .waits
  listed : site.bmc (some host) = .ok frus
  told : ∀ fru ∈ frus, Told fru
  written : ∀ fru ∈ frus, isSupply fru = true → Numeral.isWritable fru.id = true ∧ OptionsFit o

/-- The numbers of the power supplies of a controller that become devices; none if the session fails. -/
def numbersAt (site : Site) (timeout : Value) (o : IpmiOptions) (host : String) : List Int :=
  match (outcome site (some host) timeout o).value with
  | .ok ids => match ids.mapM (device (some host) o) with
    | .ok _ => ids
    | .error _ => []
  | .error _ => []

private theorem readSupplies_value (site : Site) (o : IpmiOptions) (host : String) :
    (readSupplies site (some host) o).run.value = (privilege o.privilegeLevel >>= fun _ =>
      site.bmc (some host) >>= fun frus => (supplies (some host) (inventory frus)).run.value) := by
  simp only [readSupplies, run_bind_value, Attempt.ofExcept_value]
  cases privilege o.privilegeLevel <;> rfl

private theorem forall_mem_inventory {p : Fru → Prop} (h : (frus.map Fru.id).Nodup) :
    (∀ fru ∈ inventory frus, p fru) ↔ ∀ fru ∈ frus, p fru := by
  simp only [(inventory_perm h).mem_iff]

private theorem written_iff (h : (frus.map Fru.id).Nodup) :
    (∀ id ∈ ((inventory frus).filter isSupply).map Fru.id, Numeral.isWritable id = true ∧ OptionsFit o) ↔
      ∀ fru ∈ frus, isSupply fru = true → Numeral.isWritable fru.id = true ∧ OptionsFit o := by
  rw [List.forall_mem_map]
  simp only [List.mem_filter, and_imp]
  exact forall_mem_inventory h

private theorem numbersAt_of_lists (hlists : Lists site timeout o host frus) (h : (frus.map Fru.id).Nodup)
    (hhost : host ≠ "") : numbersAt site timeout o host = ((inventory frus).filter isSupply).map Fru.id := by
  obtain ⟨level, hlevel⟩ := hlists.level
  obtain ⟨options, hoptions⟩ := exists_deviceOptions o
  have hread : (outcome site (some host) timeout o).value =
      .ok (((inventory frus).filter isSupply).map Fru.id) := by
    simp only [outcome, Traced.bind_value, readSupplies_value, hlevel, hlists.waits, hlists.listed]
    exact (supplies_yields _ _).ok ((forall_mem_inventory h).mpr hlists.told)
  have hmade := (mapM_device_yields (hoptions host) hhost _).ok ((written_iff h).mpr hlists.written)
  simp only [numbersAt, hread, hmade]

private theorem numbersAt_of_not_lists (h : ∀ frus, site.bmc (some host) = .ok frus → (frus.map Fru.id).Nodup)
    (hhost : host ≠ "") (hnot : ∀ frus, ¬ Lists site timeout o host frus) :
    numbersAt site timeout o host = [] := by
  obtain ⟨options, hoptions⟩ := exists_deviceOptions o
  cases hread : (outcome site (some host) timeout o).value with
  | error f => simp only [numbersAt, hread]
  | ok ids =>
    cases hmade : ids.mapM (device (some host) o) with
    | error f => simp only [numbersAt, hread, hmade]
    | ok devices =>
      exfalso
      cases hwaits : timeout.patience with
      | expires => simp [outcome, Traced.bind_value, hwaits] at hread
      | refused f => simp [outcome, Traced.bind_value, hwaits] at hread
      | waits =>
        simp only [outcome, Traced.bind_value, hwaits, readSupplies_value, Traced.pure_value] at hread
        obtain ⟨level, hlevel, hsession⟩ := bind_eq_ok.mp hread
        obtain ⟨frus, hlisted, hsupplies⟩ := bind_eq_ok.mp hsession
        obtain ⟨htold, rfl⟩ := (supplies_yields _ _).of_ok hsupplies
        have hwritten := ((mapM_device_yields (hoptions host) hhost _).of_ok hmade).1
        have hnodup := h frus hlisted
        exact hnot frus ⟨⟨level, hlevel⟩, hwaits, hlisted, (forall_mem_inventory hnodup).mp htold,
          (written_iff hnodup).mp hwritten⟩

/-- Whether the numbers of the units of every controller differ from each other. -/
def DistinctIds (site : Site) : Prop :=
  ∀ host frus, site.bmc (some host) = .ok frus → (frus.map Fru.id).Nodup

private theorem numbersAt_ascending (hids : DistinctIds site) (hhost : host ≠ "") :
    (numbersAt site timeout o host).Pairwise (· < ·) := by
  by_cases h : ∃ frus, Lists site timeout o host frus
  · obtain ⟨frus, h⟩ := h
    have hnodup := hids host frus h.listed
    rw [numbersAt_of_lists h hnodup hhost, List.pairwise_map]
    exact (inventory_ascending hnodup).filter _
  · rw [numbersAt_of_not_lists (hids host) hhost (not_exists.mp h)]
    exact .nil

private theorem mem_numbersAt (hids : DistinctIds site) (hhost : host ≠ "") {id : Int} :
    id ∈ numbersAt site timeout o host ↔
      ∃ frus, Lists site timeout o host frus ∧ ∃ fru ∈ frus, fru.id = id ∧
        ∃ info, fru.info = .ok info ∧ isPowerSupply fru.name info = true := by
  constructor
  · intro hid
    by_cases h : ∃ frus, Lists site timeout o host frus
    · obtain ⟨frus, h⟩ := h
      have hnodup := hids host frus h.listed
      rw [numbersAt_of_lists h hnodup hhost] at hid
      obtain ⟨fru, hfru, rfl⟩ := List.mem_map.mp hid
      obtain ⟨hmem, hsupply⟩ := List.mem_filter.mp hfru
      exact ⟨frus, h, fru, (inventory_perm hnodup).mem_iff.mp hmem, rfl, isSupply_iff.mp hsupply⟩
    · rw [numbersAt_of_not_lists (hids host) hhost (not_exists.mp h)] at hid
      cases hid
  · rintro ⟨frus, h, fru, hfru, rfl, hsupply⟩
    have hnodup := hids host frus h.listed
    rw [numbersAt_of_lists h hnodup hhost]
    have hmem := (inventory_perm hnodup).mem_iff.mpr hfru
    exact List.mem_map.mpr ⟨fru, List.mem_filter.mpr ⟨hmem, isSupply_iff.mpr hsupply⟩, rfl⟩

/-- Whether two sites have the same controllers, which may keep their units in different orders and fail in
different ways. -/
def SameUnits (site other : Site) : Prop := ∀ host : String,
  (∃ f f', site.bmc (some host) = .error f ∧ other.bmc (some host) = .error f') ∨
    ∃ frus frus', site.bmc (some host) = .ok frus ∧ other.bmc (some host) = .ok frus' ∧ frus.Perm frus'

private theorem Lists.congr (h : Lists site timeout o host frus) (hperm : frus.Perm frus')
    (hlisted : other.bmc (some host) = .ok frus') : Lists other timeout o host frus' where
  level := h.level
  waits := h.waits
  listed := hlisted
  told fru hfru := h.told fru (hperm.mem_iff.mpr hfru)
  written fru hfru := h.written fru (hperm.mem_iff.mpr hfru)

private theorem SameUnits.symm (h : SameUnits site other) : SameUnits other site := by
  intro host
  rcases h host with ⟨f, f', hf, hf'⟩ | ⟨frus, frus', hfrus, hfrus', hperm⟩
  · exact .inl ⟨f', f, hf', hf⟩
  · exact .inr ⟨frus', frus, hfrus', hfrus, hperm.symm⟩

private theorem SameUnits.lists (hsame : SameUnits site other) (h : Lists site timeout o host frus) :
    ∃ frus', frus.Perm frus' ∧ Lists other timeout o host frus' := by
  rcases hsame host with ⟨f, f', hf, hf'⟩ | ⟨listed, listed', hlisted, hlisted', hperm⟩
  · rw [h.listed] at hf
    cases hf
  · cases hlisted.symm.trans h.listed
    exact ⟨listed', hperm, h.congr hperm hlisted'⟩

private theorem SameUnits.distinctIds (hsame : SameUnits site other) (hids : DistinctIds site) :
    DistinctIds other := by
  intro host frus h
  rcases hsame host with ⟨f, f', hf, hf'⟩ | ⟨listed, listed', hlisted, hlisted', hperm⟩
  · rw [h] at hf'
    cases hf'
  · cases hlisted'.symm.trans h
    exact (hperm.map Fru.id).nodup_iff.mp (hids host listed hlisted)

private theorem numbersAt_congr (hids : DistinctIds site) (hsame : SameUnits site other) (hhost : host ≠ "") :
    numbersAt other timeout o host = numbersAt site timeout o host := by
  have hids' := hsame.distinctIds hids
  by_cases h : ∃ frus, Lists site timeout o host frus
  · obtain ⟨frus, h⟩ := h
    obtain ⟨frus', hperm, h'⟩ := hsame.lists h
    have hnodup := hids host frus h.listed
    rw [numbersAt_of_lists h hnodup hhost, numbersAt_of_lists h' (hids' host frus' h'.listed) hhost,
      inventory_congr hnodup hperm]
  · have hnone : ∀ frus, ¬ Lists other timeout o host frus := by
      intro frus hother
      obtain ⟨listed, -, hlisted⟩ := hsame.symm.lists hother
      exact h ⟨listed, hlisted⟩
    rw [numbersAt_of_not_lists (hids host) hhost (not_exists.mp h),
      numbersAt_of_not_lists (hids' host) hhost hnone]

/-! ### The scan of a range -/

def ask (site : Site) (timeout : Value) (o : IpmiOptions) : Probe := fun address => do
  let found ← probe site timeout o (some address)
  return some found

private theorem probe_value (site : Site) (timeout : Value) (o : IpmiOptions) (host : Option String) :
    (probe site timeout o host).run.value = match (outcome site host timeout o).value with
      | .ok ids => ids.mapM (device host o)
      | .error f => if f.isTimeout then timeout.written.map fun _ => [] else .ok [] := by
  have hlift : (ExceptT.lift (outcome site host timeout o) : Attempt _).run.value =
      .ok (outcome site host timeout o).value := rfl
  rw [probe, run_bind_value, hlift]
  cases (outcome site host timeout o).value with
  | ok ids => exact Attempt.ofExcept_value _
  | error f =>
    cases htimeout : f.isTimeout with
    | false =>
      simp only [bind, Except.bind, htimeout, Bool.false_eq_true, if_false]
      rfl
    | true =>
      simp only [bind, Except.bind, htimeout, if_true]
      cases timeout.written <;> rfl

private theorem finds_ask {options : DeviceOptions}
    (hoptions : Yields (deviceOptions (some host) o) (OptionsFit o) options) (hhost : host ≠ "") :
    (ask site timeout o).finds host = (numbersAt site timeout o host).map (supplyOf options host) := by
  have hvalue := probe_value site timeout o (some host)
  simp only [Probe.finds, ask, numbersAt, run_bind_value, hvalue]
  cases (outcome site (some host) timeout o).value with
  | ok ids =>
    cases hmade : ids.mapM (device (some host) o) with
    | error f =>
      simp only [hmade]
      rfl
    | ok devices =>
      rw [((mapM_device_yields hoptions hhost ids).of_ok hmade).2] at hmade
      simp only [hmade]
      rfl
  | error f =>
    simp only
    cases f.isTimeout with
    | false => rfl
    | true => cases timeout.written <;> rfl

/-! ### The order of the devices -/

/-- The order of power supplies: that of their addresses, and at one address that of their numbers. -/
def Precedes (x y : Nat × Int) : Prop := x.1 < y.1 ∨ x.1 = y.1 ∧ x.2 < y.2

/-- The power supplies between two addresses, each as the number of its address and its own. -/
def suppliesBetween (site : Site) (timeout : Value) (o : IpmiOptions) (a b : Address) : List (Nat × Int) :=
  let low := min a.value b.value
  (List.range' low (max a.value b.value - low + 1)).flatMap fun n =>
    (numbersAt site timeout o (Address.ofNat a.family n).text).map fun id => (n, id)

variable {a b : Address}

private theorem suppliesBetween_ascending (hids : DistinctIds site) :
    (suppliesBetween site timeout o a b).Pairwise Precedes := by
  rw [suppliesBetween, List.pairwise_flatMap]
  constructor
  · intro n _
    rw [List.pairwise_map]
    have hhost := Address.text_ofNat_ne_empty a.family n
    exact (numbersAt_ascending hids hhost).imp fun hlt => .inr ⟨rfl, hlt⟩
  · refine List.Pairwise.imp ?_ List.pairwise_lt_range'
    intro n n' hlt x hx y hy
    obtain ⟨_, _, rfl⟩ := List.mem_map.mp hx
    obtain ⟨_, _, rfl⟩ := List.mem_map.mp hy
    exact .inl hlt

private theorem mem_suppliesBetween {n : Nat} {id : Int} : (n, id) ∈ suppliesBetween site timeout o a b ↔
    (min a.value b.value ≤ n ∧ n ≤ max a.value b.value) ∧
      id ∈ numbersAt site timeout o (Address.ofNat a.family n).text := by
  simp only [suppliesBetween, List.mem_flatMap, List.mem_range'_1, List.mem_map, Prod.mk.injEq]
  constructor
  · rintro ⟨n', hn', id', hid', rfl, rfl⟩
    exact ⟨by omega, hid'⟩
  · rintro ⟨hn, hid⟩
    exact ⟨n, by omega, id, hid, rfl, rfl⟩

private theorem flatMap_finds_ask {options : DeviceOptions}
    (hoptions : ∀ host, Yields (deviceOptions (some host) o) (OptionsFit o) options) :
    (a.between b).flatMap (ask site timeout o).finds = (suppliesBetween site timeout o a b).map
      fun e => supplyOf options (Address.ofNat a.family e.1).text e.2 := by
  rw [Address.between, suppliesBetween, List.flatMap_map, List.map_flatMap]
  congr 1
  funext n
  rw [finds_ask (hoptions _) (Address.text_ofNat_ne_empty a.family n), List.map_map]
  rfl

private theorem supplyOf_port_inj {options : DeviceOptions} {host host' : String} {id id' : Int} :
    (supplyOf options host id).port = (supplyOf options host' id').port ↔ id = id' ∧ host = host' := by
  have hname (n : Int) : '@' ∉ ("id" ++ toString n).toList := by
    rw [String.toList_append, List.mem_append, not_or]
    exact ⟨by decide, Network.not_mem_toString_int (by decide) (by decide) n⟩
  have hid : "id" ++ toString id = "id" ++ toString id' ↔ id = id' := by
    rw [← Network.toString_int_inj, String.append_right_inj]
  rw [← hid]
  exact Upsd.at_append_inj (hname id) (hname id')

private theorem ports_nodup (hids : DistinctIds site) (hf : a.family = b.family) (options : DeviceOptions) :
    ((suppliesBetween site timeout o a b).map fun e =>
      (supplyOf options (Address.ofNat a.family e.1).text e.2).port).Nodup := by
  rw [List.nodup_map_iff_inj_on]
  · rintro ⟨n, id⟩ hx ⟨n', id'⟩ hy hport
    obtain ⟨rfl, htext⟩ := supplyOf_port_inj.mp hport
    have hsame := (Address.text_inj (Address.isLegible_ofNat _ _) (Address.isLegible_ofNat _ _)).mp htext
    have hlt {k : Nat} (hk : k ≤ max a.value b.value) : k < Nat.pow 2 a.family.width := by
      have ha := a.value_lt
      have hb := b.value_lt
      rw [← hf] at hb
      omega
    have hvalue := congrArg Address.value hsame
    rw [Address.ofNat_value (hlt (mem_suppliesBetween.mp hx).1.2),
      Address.ofNat_value (hlt (mem_suppliesBetween.mp hy).1.2)] at hvalue
    rw [hvalue]
  · apply (suppliesBetween_ascending hids).imp
    rintro x y (hlt | ⟨_, hlt⟩) rfl
    · omega
    · omega

private theorem scan_value (gate : Option Semaphore) (timeout : Value) (o : IpmiOptions)
    (start stop : String) (hinstalled : site.installed .ipmi = true) :
    ((engine site).scan gate (some (.text start)) (some (.text stop)) timeout (.ipmi o)).run.value =
      ((ask site timeout o).range gate (.text start) (.text stop)).run.value.map some := by
  simp only [engine, hinstalled, Bool.not_true, Bool.false_eq_true, if_false, run_bind_value]
  have hask : (fun address => do
      let found ← probe site timeout o (some address)
      return some found : Probe) = ask site timeout o := rfl
  rw [hask]
  cases ((ask site timeout o).range gate (.text start) (.text stop)).run.value <;> rfl

private theorem scan_found {gate : Option Semaphore} {options : DeviceOptions} {start stop : String}
    (hinstalled : site.installed .ipmi = true) (hslots : 0 < Pool.slotsOf gate)
    (hoptions : ∀ host, Yields (deviceOptions (some host) o) (OptionsFit o) options)
    (ha : Address.read start = .ok a) (hb : Address.read stop = .ok b) (hf : a.family = b.family) :
    ((engine site).scan gate (some (.text start)) (some (.text stop)) timeout (.ipmi o)).run.value =
      .ok (some ((suppliesBetween site timeout o a b).map
        fun e => supplyOf options (Address.ofNat a.family e.1).text e.2)) := by
  obtain ⟨span, hspan, hbetween⟩ := Span.ofEndpoints_between ha hb hf
  rw [scan_value gate timeout o start stop hinstalled, Probe.range_value _ hslots hspan, hbetween,
    flatMap_finds_ask hoptions]
  rfl

/-- The scan of a range between two addresses of one family has a device for each power supply that could be
read there, and no other: in the order of the addresses and at each of them in that of the numbers, in
whatever order the units are kept and the probes take their steps.  No two of them have the same port.  A
controller contributes nothing if its session fails, and also if a number that has to be written has too many
digits.  With other ends the scan fails with an error of the value. -/
theorem scan_inventories (site : Site) (gate : Option Semaphore) (timeout : Value) (o : IpmiOptions)
    (start stop : String) (hinstalled : site.installed .ipmi = true) (hslots : 0 < Pool.slotsOf gate)
    (hids : DistinctIds site) :
    let scan (site : Site) :=
      ((engine site).scan gate (some (.text start)) (some (.text stop)) timeout (.ipmi o)).run.value
    (∀ a b, Address.read start = .ok a → Address.read stop = .ok b → a.family = b.family →
      ∃ (entries : List (Nat × Int)) (options : DeviceOptions),
        let devices := entries.map fun e => supplyOf options (Address.ofNat a.family e.1).text e.2
        scan site = .ok (some devices) ∧
        entries.Pairwise Precedes ∧
        (∀ n id, (n, id) ∈ entries ↔ (min a.value b.value ≤ n ∧ n ≤ max a.value b.value) ∧
          ∃ frus, Lists site timeout o (Address.ofNat a.family n).text frus ∧
            ∃ fru ∈ frus, fru.id = id ∧
              ∃ info, fru.info = .ok info ∧ isPowerSupply fru.name info = true) ∧
        (entries ≠ [] → ∀ host, deviceOptions (some host) o = .ok options) ∧
        (devices.map Device.port).Nodup ∧
        (∀ other : Site, other.installed .ipmi = true → SameUnits site other → scan other = scan site) ∧
        ∀ free moves free' p r, 0 < free → free ≤ Pool.slotsOf gate →
          (Party.call (.text start) (.text stop) (ask site timeout o)).follow? free moves =
            some (free', p) → p.result? = some r → r = .ok devices) ∧
    ((¬ ∃ a b, Address.read start = .ok a ∧ Address.read stop = .ok b ∧ a.family = b.family) →
      ∃ f : Fault, f.isValue ∧ scan site = .error f) := by
  intro scan
  obtain ⟨options, hoptions⟩ := exists_deviceOptions o
  constructor
  · intro a b ha hb hf
    have hfound (s : Site) (hs : s.installed .ipmi = true) : scan s = _ :=
      scan_found hs hslots hoptions ha hb hf
    have hmem (n : Nat) (id : Int) : (n, id) ∈ suppliesBetween site timeout o a b ↔ _ :=
      mem_suppliesBetween.trans (and_congr_right fun _ =>
        mem_numbersAt hids (Address.text_ofNat_ne_empty a.family n))
    refine ⟨suppliesBetween site timeout o a b, options, hfound site hinstalled,
      suppliesBetween_ascending hids, hmem, ?_, ?_, ?_, ?_⟩
    · intro hentries host
      obtain ⟨⟨n, id⟩, hentry⟩ := List.exists_mem_of_ne_nil _ hentries
      obtain ⟨-, frus, hlists, fru, hfru, -, hsupply⟩ := (hmem n id).mp hentry
      exact (hoptions host).ok (hlists.written fru hfru (isSupply_iff.mpr hsupply)).2
    · rw [List.map_map]
      exact ports_nodup hids hf options
    · intro other hother hsame
      have hlists : suppliesBetween other timeout o a b = suppliesBetween site timeout o a b := by
        simp only [suppliesBetween, numbersAt_congr hids hsame (Address.text_ofNat_ne_empty _ _)]
      rw [hfound other hother, hfound site hinstalled, hlists]
    · intro free moves free' p r hfree hgate hrun hr
      obtain ⟨-, -, hresult⟩ := Party.follow?_call_between hfree hgate ha hb hf hrun
      rw [(hresult r hr).2.2.1, flatMap_finds_ask hoptions]
  · intro hends
    obtain ⟨e, he⟩ := Span.ofEndpoints_error hends
    have hscan := scan_value gate timeout o start stop hinstalled
    rw [Probe.range_error _ gate he] at hscan
    exact ⟨.badAddress e, rfl, hscan⟩

private def shelf : List Fru :=
  [⟨7, "PSU 2", .ok []⟩, ⟨3, "Module", .ok [("Product name", .text "Power Supply 650")]⟩,
    ⟨5, "PSU 1", .error Fault.expired⟩, ⟨4, "Board", .ok []⟩]

/-- A controller with certain units, beside others that fail. -/
private def rack (frus : List Fru) : Site where
  installed _ := true
  usb := .ok []
  snmp _ := .silent
  http _ := .ok {}
  broadcast := {}
  upsd _ _ := {}
  services := []
  bmc host := if host = some "10.0.0.1" then .ok frus else .error Fault.expired
  serial _ := .ok []
  serialPorts := []
  files _ := none

private theorem rack_distinctIds (h : (frus.map Fru.id).Nodup) : DistinctIds (rack frus) := by
  intro host listed hlisted
  simp only [rack] at hlisted
  split at hlisted
  · cases hlisted
    exact h
  · cases hlisted

private theorem shelf_lists : Lists (rack shelf) (.int 5) {} "10.0.0.1" shelf := by
  have hsmall {n : Nat} (h : n ≤ 65535) : Numeral.isWritable n = true := Upsd.isWritable_of_isPort h
  have hoptions : OptionsFit {} := fun h => absurd h (by decide)
  refine ⟨⟨4, rfl⟩, rfl, rfl, ?_, ?_⟩
  · intro fru hfru
    simp only [shelf, List.mem_cons, List.not_mem_nil, or_false] at hfru
    rcases hfru with rfl | rfl | rfl | rfl
    · exact .inl (by decide)
    · refine .inr ?_
      rintro _ ⟨⟩
      rfl
    · exact hsmall (by decide : 5 ≤ 65535)
    · exact .inr nofun
  · intro fru hfru hsupply
    simp only [shelf, List.mem_cons, List.not_mem_nil, or_false] at hfru
    rcases hfru with rfl | rfl | rfl | rfl
    · exact ⟨hsmall (by decide : 7 ≤ 65535), hoptions⟩
    · exact ⟨hsmall (by decide : 3 ≤ 65535), hoptions⟩
    · cases hsupply
    · exact absurd hsupply (by decide)

theorem scan_inventories_rack : ∃ (entries : List (Nat × Int)) (options : DeviceOptions),
    ((engine (rack shelf)).scan none (some (.text "10.0.0.2")) (some (.text "10.0.0.1")) (.int 5)
      (.ipmi {})).run.value = .ok (some (entries.map fun e =>
        supplyOf options (Address.ofNat .inet e.1).text e.2)) ∧
    entries.Pairwise Precedes ∧ (0x0A000001, 3) ∈ entries ∧ (0x0A000001, 7) ∈ entries ∧
    ∀ e ∈ entries, e = (0x0A000001, 3) ∨ e = (0x0A000001, 7) := by
  obtain ⟨entries, options, hscan, hascending, hmem, -⟩ :=
    (scan_inventories (rack shelf) none (.int 5) {} "10.0.0.2" "10.0.0.1" rfl (by decide)
      (rack_distinctIds (by decide))).1 (.ofNat .inet 0x0A000002) (.ofNat .inet 0x0A000001) rfl rfl rfl
  have hlists := shelf_lists
  refine ⟨entries, options, hscan, hascending, ?_, ?_, ?_⟩
  · exact (hmem _ _).mpr
      ⟨by decide, shelf, hlists, shelf[1], List.getElem_mem _, rfl, _, rfl, by decide⟩
  · exact (hmem _ _).mpr
      ⟨by decide, shelf, hlists, shelf[0], List.getElem_mem _, rfl, _, rfl, by decide⟩
  · rintro ⟨n, id⟩ he
    obtain ⟨hn, frus, hfrus, fru, hfru, rfl, info, hinfo, hsupply⟩ := (hmem n id).mp he
    have hbounds : 0x0A000001 ≤ n ∧ n ≤ 0x0A000002 := hn
    have hlisted := hfrus.listed
    obtain rfl | rfl : n = 0x0A000001 ∨ n = 0x0A000002 := by omega
    · cases hlists.listed.symm.trans hlisted
      simp only [shelf, List.mem_cons, List.not_mem_nil, or_false] at hfru
      rcases hfru with rfl | rfl | rfl | rfl
      · exact .inr rfl
      · exact .inl rfl
      · cases hinfo
      · cases hinfo
        exact absurd hsupply (by decide)
    · cases hlisted

private def longNumber : Int := (Nat.pow 10 Numeral.maxDigits : Nat)

private theorem isWritable_longNumber : Numeral.isWritable longNumber = false := by
  rw [Numeral.isWritable, longNumber, Int.natAbs_natCast]
  exact decide_eq_false (Nat.lt_irrefl _)

private def rackAddress : Address := .ofNat .inet 0x0A000001

private theorem scan_of_not_lists {o : IpmiOptions} (hids : (frus.map Fru.id).Nodup)
    (hnot : ¬ Lists (rack frus) (.int 5) o "10.0.0.1" frus) :
    ((engine (rack frus)).scan none (some (.text "10.0.0.1")) (some (.text "10.0.0.1")) (.int 5)
      (.ipmi o)).run.value = .ok (some []) := by
  obtain ⟨options, hoptions⟩ := exists_deviceOptions o
  have hnothing : suppliesBetween (rack frus) (.int 5) o rackAddress rackAddress = [] := by
    apply List.eq_nil_iff_forall_not_mem.mpr
    rintro ⟨n, id⟩ hentry
    obtain ⟨hn, hid⟩ := mem_suppliesBetween.mp hentry
    obtain rfl : n = 0x0A000001 := by
      have hbounds : 0x0A000001 ≤ n ∧ n ≤ 0x0A000001 := hn
      omega
    have htext : (Address.ofNat rackAddress.family 0x0A000001).text = "10.0.0.1" := by decide
    rw [htext] at hid
    obtain ⟨listed, hlists, -⟩ := (mem_numbersAt (rack_distinctIds hids) (by decide)).mp hid
    have hlisted : (rack frus).bmc (some "10.0.0.1") = .ok frus := rfl
    cases hlisted.symm.trans hlists.listed
    exact hnot hlists
  have hfound : ((engine (rack frus)).scan none (some (.text "10.0.0.1")) (some (.text "10.0.0.1"))
      (.int 5) (.ipmi o)).run.value =
      .ok (some ((suppliesBetween (rack frus) (.int 5) o rackAddress rackAddress).map
        fun e => supplyOf options (Address.ofNat rackAddress.family e.1).text e.2)) :=
    scan_found rfl (by decide) hoptions rfl rfl rfl
  rw [hfound, hnothing, List.map_nil]

private def smallSupply : Fru := ⟨1, "PSU 1", .ok []⟩

private def longSupply : Fru := ⟨longNumber, "PSU 2", .ok []⟩

/-- A number that is too long takes away the other devices of its controller, whether it is that of a unit or
that of the cipher suite. -/
theorem scan_loses_long_numbers :
    let scan (frus : List Fru) (o : IpmiOptions) := ((engine (rack frus)).scan none
      (some (.text "10.0.0.1")) (some (.text "10.0.0.1")) (.int 5) (.ipmi o)).run.value
    (∀ fru ∈ [smallSupply, longSupply], fru.info = .ok [] ∧ isPowerSupply fru.name [] = true) ∧
    DistinctIds (rack [smallSupply, longSupply]) ∧ scan [smallSupply, longSupply] {} = .ok (some []) ∧
    DistinctIds (rack [smallSupply]) ∧
    scan [smallSupply] { version := .text "2.0", cipherSuite := .int longNumber } = .ok (some []) := by
  have hids : ([smallSupply, longSupply].map Fru.id).Nodup := by
    have hdiffer : (1 : Int) ≠ longNumber := by
      intro hsame
      have hone : Numeral.isWritable 1 = true := Upsd.isWritable_of_isPort (by decide : 1 ≤ 65535)
      rw [hsame, isWritable_longNumber] at hone
      cases hone
    exact List.nodup_cons.mpr ⟨mt List.mem_singleton.mp hdiffer, List.nodup_singleton _⟩
  have hone : ([smallSupply].map Fru.id).Nodup := List.nodup_singleton _
  refine ⟨?_, rack_distinctIds hids, scan_of_not_lists hids ?_, rack_distinctIds hone, scan_of_not_lists hone ?_⟩
  · simp only [List.forall_mem_cons, List.not_mem_nil, false_imp_iff, implies_true, and_true]
    exact ⟨⟨rfl, by decide⟩, rfl, by decide⟩
  · intro hlists
    have hlong : Numeral.isWritable longNumber = true :=
      (hlists.written longSupply (List.mem_cons_of_mem _ List.mem_cons_self) (by decide)).1
    rw [isWritable_longNumber] at hlong
    cases hlong
  · intro hlists
    have hlong : (Value.int longNumber).isWritable = true :=
      (hlists.written smallSupply List.mem_cons_self (by decide)).2 (by decide)
    rw [Value.isWritable, isWritable_longNumber] at hlong
    cases hlong

end PowerDiscovery.Ipmi
