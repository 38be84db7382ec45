import Mathlib.Data.List.Nodup
import Mathlib.Data.String.Basic
import PowerDiscovery.Discovery.Simulation
import PowerDiscovery.Proofs.Discovery.Losses
import PowerDiscovery.Proofs.Location
import PowerDiscovery.Proofs.Sorting

/-! # Files that describe devices

A scan of a directory has one device for each file whose name goes on from something to one of the two endings,
in the order of the names, in whatever order the system lists them.  A name that the system cannot look at
takes all of them away. -/

namespace PowerDiscovery.Simulation

/-! ### Endings -/

/-- Whether something stands before one of the endings in a name. -/
def Describes (name : String) : Prop := ∃ front, front ≠ "" ∧ (name = front ++ ".dev" ∨ name = front ++ ".seq")

private theorem ending_eq_iff (word : String) {name : String} (hword : word.toList ≠ [])
    (hdot : '.' ∉ word.toList) :
    Location.ending name = "." ++ word ↔ ∃ front, front ≠ "" ∧ name = front ++ ("." ++ word) := by
  have hchars : "." ++ word = String.ofList ('.' :: word.toList) := by
    apply String.toList_inj.mp
    simp
  rw [hchars]
  constructor
  · intro h
    obtain ⟨front, hfront, hname⟩ := Location.front_of_ending h
    refine ⟨String.ofList front, by simpa using hfront, ?_⟩
    apply String.toList_inj.mp
    simpa using hname
  · rintro ⟨front, hfront, hname⟩
    have hsplit : name.toList = front.toList ++ '.' :: word.toList := by simp [hname]
    exact Location.ending_of_front (mt String.toList_eq_nil_iff.mp hfront) hword hdot hsplit

private theorem hasEnding_iff {name : String} : hasEnding name = true ↔ Describes name := by
  have hdev : Location.ending name = ".dev" ↔ ∃ front, front ≠ "" ∧ name = front ++ ".dev" :=
    ending_eq_iff "dev" (by decide) (by decide)
  have hseq : Location.ending name = ".seq" ↔ ∃ front, front ≠ "" ∧ name = front ++ ".seq" :=
    ending_eq_iff "seq" (by decide) (by decide)
  simp only [hasEnding, endings, List.contains_cons, List.contains_nil, Bool.or_false, Bool.or_eq_true, beq_iff_eq,
    hdev, hseq, Describes, and_or_left, exists_or]

/-! ### Members of a directory -/

/-- Whether the system can look at a name in a directory: its location is not too long. -/
def Reachable (location name : String) : Prop :=
  (Location.child location name).utf8ByteSize ≤ Files.maxLocation

private theorem reachable_iff {location name : String} (hnormal : Location.normal location = location)
    (hnames : Location.names location.toList ≠ []) (hne : name ≠ "") (hstep : name ≠ ".")
    (hslash : '/' ∉ name.toList) :
    Reachable location name ↔ location.utf8ByteSize + 1 + name.utf8ByteSize ≤ Files.maxLocation := by
  have hseparator : "/".utf8ByteSize = 1 := by decide
  rw [Reachable, Location.child_of_name hnormal hnames hne hstep hslash, String.utf8ByteSize_append,
    String.utf8ByteSize_append, hseparator]

variable {location : String} {m : Member} {members members' : List Member}

private theorem isFile_of_reachable (h : Reachable location m.name) : Files.isFile location m = .ok m.isFile :=
  if_neg (Nat.not_lt.mpr h)

private theorem isFile_of_not_reachable (h : ¬ Reachable location m.name) :
    Files.isFile location m = .error (Files.Obstacle.length.fault (Location.child location m.name)) :=
  if_pos (Nat.not_le.mp h)

/-- The names of the files that describe devices, in the order of the members. -/
def namesOf (members : List Member) : List String :=
  (members.filter fun m => hasEnding m.name && m.isFile).map Member.name

private theorem described_cons_of_reachable (h : hasEnding m.name = true → Reachable location m.name) :
    described location (m :: members) =
      (described location members).map fun devices => (namesOf [m]).map deviceOf ++ devices := by
  cases hending : hasEnding m.name with
  | false =>
    simp only [described, hending, namesOf, List.filter_cons, List.filter_nil, Bool.false_and, Bool.false_eq_true,
      if_false, List.map_nil, List.nil_append]
    cases described location members <;> rfl
  | true =>
    simp only [described, hending, isFile_of_reachable (h hending), namesOf, List.filter_cons, List.filter_nil,
      Bool.true_and, if_true]
    cases m.isFile with
    | false => cases described location members <;> rfl
    | true => cases described location members <;> rfl

private theorem described_of_reachable (h : ∀ m ∈ members, hasEnding m.name = true → Reachable location m.name) :
    described location members = .ok ((namesOf members).map deviceOf) := by
  induction members with
  | nil => rfl
  | cons m members ih =>
    have hothers := ih fun x hx => h x (List.mem_cons_of_mem _ hx)
    have hnames : namesOf (m :: members) = namesOf [m] ++ namesOf members := by
      rw [namesOf, ← List.singleton_append, List.filter_append, List.map_append]
      rfl
    rw [described_cons_of_reachable (h m List.mem_cons_self), hothers, hnames, List.map_append]
    rfl

private theorem described_of_not_reachable {before after : List Member}
    (hbefore : ∀ x ∈ before, hasEnding x.name = true → Reachable location x.name)
    (hending : hasEnding m.name = true) (hm : ¬ Reachable location m.name) :
    described location (before ++ m :: after) =
      .error (Files.Obstacle.length.fault (Location.child location m.name)) := by
  induction before with
  | nil =>
    simp only [List.nil_append, described, hending, isFile_of_not_reachable hm, if_true]
    rfl
  | cons x before ih =>
    have hothers := ih fun y hy => hbefore y (List.mem_cons_of_mem _ hy)
    rw [List.cons_append, described_cons_of_reachable (hbefore x List.mem_cons_self), hothers]
    rfl

/-! ### The order of the names -/

private theorem devicesOf_congr (h : (members.map Member.name).Nodup) (hperm : members.Perm members') :
    devicesOf location members' = devicesOf location members :=
  congrArg (described location) (mergeSort_key_congr Member.name h hperm).symm

theorem mem_namesOf {name : String} : name ∈ namesOf members ↔ ⟨name, true⟩ ∈ members ∧ Describes name := by
  simp only [namesOf, List.mem_map, List.mem_filter, Bool.and_eq_true, hasEnding_iff]
  constructor
  · rintro ⟨⟨name', isFile⟩, ⟨hmem, hdescribes, hfile⟩, rfl⟩
    cases hfile
    exact ⟨hmem, hdescribes⟩
  · rintro ⟨hmem, hdescribes⟩
    exact ⟨⟨name, true⟩, ⟨hmem, hdescribes, rfl⟩, rfl⟩

/-- The devices of a directory whose names can all be looked at: one for each file, in the order of the names. -/
private theorem devicesOf_of_reachable (h : (members.map Member.name).Nodup)
    (hreach : ∀ m ∈ members, Describes m.name → Reachable location m.name) :
    ∃ names : List String, devicesOf location members = .ok (names.map deviceOf) ∧ names.Pairwise (· < ·) ∧
      ∀ name, name ∈ names ↔ ⟨name, true⟩ ∈ members ∧ Describes name := by
  have hperm := List.mergeSort_perm members fun a b => decide (a.name ≤ b.name)
  refine ⟨namesOf (members.mergeSort fun a b => decide (a.name ≤ b.name)), ?_, ?_, ?_⟩
  · exact described_of_reachable fun x hx hending => hreach x (hperm.mem_iff.mp hx) (hasEnding_iff.mp hending)
  · exact List.pairwise_map.mpr ((mergeSort_key_ascending Member.name h).filter _)
  · intro name
    rw [mem_namesOf, hperm.mem_iff]

private theorem devicesOf_of_not_reachable (h : (members.map Member.name).Nodup)
    (hlost : ∃ m ∈ members, Describes m.name ∧ ¬ Reachable location m.name) :
    ∃ m ∈ members, (Describes m.name ∧ ¬ Reachable location m.name) ∧
      (∀ x ∈ members, Describes x.name → ¬ Reachable location x.name → m.name ≤ x.name) ∧
      devicesOf location members = .error (Files.Obstacle.length.fault (Location.child location m.name)) := by
  have hperm := List.mergeSort_perm members fun a b => decide (a.name ≤ b.name)
  obtain ⟨x, hx, hxlost⟩ := hlost
  obtain ⟨before, m, after, hsplit, hm, hbefore, hleast⟩ :=
    exists_first (p := fun x => Describes x.name ∧ ¬ Reachable location x.name) Member.name
      (mergeSort_key_ascending Member.name h) ⟨x, hperm.mem_iff.mpr hx, hxlost⟩
  have hmem : m ∈ members := by
    rw [← hperm.mem_iff, hsplit]
    exact List.mem_append_right _ List.mem_cons_self
  refine ⟨m, hmem, hm, fun y hy hdescribes hlost => hleast y (hperm.mem_iff.mpr hy) ⟨hdescribes, hlost⟩, ?_⟩
  rw [devicesOf, hsplit]
  apply described_of_not_reachable
  · intro y hy hending
    by_contra hlost
    exact hbefore y hy ⟨hasEnding_iff.mp hending, hlost⟩
  · exact hasEnding_iff.mpr hm.1
  · exact hm.2

/-! ### The scan -/

theorem scan_value {site : Site} {directory : String} {options : ScanOptions} (gate : Option Semaphore)
    (start stop : Option Endpoint) (timeout : Value) (htarget : target directory options = .ok location)
    (hlist : site.files.list location = .ok members) :
    ((engine site directory).scan gate start stop timeout options).run.value =
      (devicesOf location members).map some := by
  have hgoOn {β : Type} (next : String → Except Fault β) : Except.ok location >>= next = next location := rfl
  simp only [engine, run_bind_value, Attempt.ofExcept_value, htarget, hgoOn, hlist]
  cases devicesOf location members <;> rfl

/-- The scan of a directory does not show in which order the system lists it.  If every name that describes a
device can be looked at, there is one device for each of these that is a regular file, with the name as its port,
in ascending order of the names.  Otherwise there is none: the scan fails at the least name that cannot be. -/
theorem scan_lists_files (site : Site) (directory : String) (gate : Option Semaphore)
    (start stop : Option Endpoint) (timeout : Value) (options : ScanOptions)
    (htarget : target directory options = .ok location) (hlist : site.files.list location = .ok members)
    (hnames : (members.map Member.name).Nodup) :
    let scan (site : Site) := ((engine site directory).scan gate start stop timeout options).run.value
    (∀ (other : Site) (members' : List Member), other.files.list location = .ok members' →
      members.Perm members' → scan other = scan site) ∧
    ((∀ m ∈ members, Describes m.name → Reachable location m.name) →
      ∃ names : List String, scan site = .ok (some (names.map deviceOf)) ∧ names.Pairwise (· < ·) ∧
        ∀ name, name ∈ names ↔ ⟨name, true⟩ ∈ members ∧ Describes name) ∧
    ((∃ m ∈ members, Describes m.name ∧ ¬ Reachable location m.name) →
      ∃ m ∈ members, (Describes m.name ∧ ¬ Reachable location m.name) ∧
        (∀ x ∈ members, Describes x.name → ¬ Reachable location x.name → m.name ≤ x.name) ∧
        scan site = .error (Files.Obstacle.length.fault (Location.child location m.name))) := by
  intro scan
  have hscan : scan site = (devicesOf location members).map some :=
    scan_value gate start stop timeout htarget hlist
  refine ⟨?_, ?_, ?_⟩
  · intro other members' hother hperm
    have hotherScan : scan other = (devicesOf location members').map some :=
      scan_value gate start stop timeout htarget hother
    rw [hscan, hotherScan, devicesOf_congr hnames hperm]
  · intro hreach
    obtain ⟨names, hdevices, hascending, hmem⟩ := devicesOf_of_reachable hnames hreach
    refine ⟨names, ?_, hascending, hmem⟩
    rw [hscan, hdevices]
    rfl
  · intro hlost
    obtain ⟨m, hm, hmlost, hleast, hdevices⟩ := devicesOf_of_not_reachable hnames hlost
    refine ⟨m, hm, hmlost, hleast, ?_⟩
    rw [hscan, hdevices]
    rfl

/-- A way through seventeen directories, none of which has a name of more than 254 characters. -/
private def way : List Char :=
  (List.replicate 16 ('/' :: List.replicate 254 'n')).flatten ++ '/' :: List.replicate 8 'n'

private def deep : String := String.ofList way

private theorem names_deep : Location.names deep.toList ≠ [] := by
  have hlength : (Location.names way).length = 16 + 1 := by decide +kernel
  rw [deep, String.toList_ofList]
  exact List.ne_nil_of_length_eq_add_one hlength

private theorem normal_deep : Location.normal deep = deep :=
  Location.normal_ofList (by decide +kernel) (List.append_ne_nil_of_right_ne_nil _ (List.cons_ne_nil _ _))

private theorem reachable_deep {name : String} (hne : name ≠ "") (hstep : name ≠ ".")
    (hslash : '/' ∉ name.toList) : Reachable deep name ↔ name.utf8ByteSize ≤ 5 := by
  have hsize : deep.utf8ByteSize = 4089 := by
    rw [deep, String.utf8ByteSize_ofList]
    decide +kernel
  rw [reachable_iff normal_deep names_deep hne hstep hslash, hsize, Files.maxLocation]
  omega

private def crowd : List Member :=
  [⟨"b.seq", true⟩, ⟨"ab.dev", true⟩, ⟨".dev", true⟩, ⟨"a.dev", true⟩, ⟨"c.dev", false⟩]

private def depot : Site where
  installed _ := true
  usb := .ok []
  snmp _ := .silent
  http _ := .ok {}
  broadcast := {}
  upsd _ _ := {}
  services := []
  bmc _ := .error Fault.expired
  serial _ := .ok []
  serialPorts := []
  files _ := some (.directory crowd)

/-- The names `b.seq` and `a.dev` fit in this directory, but `ab.dev` does not. -/
theorem scan_lists_files_deep :
    target deep .none = .ok deep ∧ depot.files.list deep = .ok crowd ∧
      (crowd.map Member.name).Nodup ∧ Reachable deep "b.seq" ∧
      ((engine depot deep).scan none none none .null .none).run.value =
        .error (Files.Obstacle.length.fault (Location.child deep "ab.dev")) := by
  have htarget : target deep .none = .ok deep := rfl
  have hlist : depot.files.list deep = .ok crowd := rfl
  have hnames : (crowd.map Member.name).Nodup := by decide
  have hshort : ∀ m ∈ crowd, m.name ≠ "ab.dev" → Reachable deep m.name := by
    intro m hm hother
    have hwritten : m.name ≠ "" ∧ m.name ≠ "." ∧ '/' ∉ m.name.toList ∧
        (m.name ≠ "ab.dev" → m.name.utf8ByteSize ≤ 5) := by
      revert m
      decide
    obtain ⟨hne, hstep, hslash, hsize⟩ := hwritten
    exact (reachable_deep hne hstep hslash).mpr (hsize hother)
  have hlong : ¬ Reachable deep "ab.dev" := by
    rw [reachable_deep (by decide) (by decide) (by decide)]
    decide
  obtain ⟨-, -, hlost⟩ := scan_lists_files depot deep none none none .null .none htarget hlist hnames
  obtain ⟨m, hm, ⟨-, hmlost⟩, -, hscan⟩ :=
    hlost ⟨⟨"ab.dev", true⟩, by simp [crowd], ⟨"ab", by decide, .inl (by decide)⟩, hlong⟩
  have hname : m.name = "ab.dev" := by
    by_contra hother
    exact hmlost (hshort m hm hother)
  rw [hname] at hscan
  exact ⟨htarget, hlist, hnames, hshort ⟨"b.seq", true⟩ (by simp [crowd]) (by decide), hscan⟩

end PowerDiscovery.Simulation
