import DocMarkdown.Proofs.FileTree.Following
import DocMarkdown.Proofs.FileTree.Paths
import Mathlib.Data.List.Infix

/-!
# Writing to file trees

Writing a file changes what stands at one location, where no directory was. Making a directory adds
directories on the way to it, where nothing was. So both keep the directories that there are, and
what is reached through them.

## Main definitions

* `FileTree.LeadsTo` — a path leads to a directory
* `FileTree.SameOrMade` — a location is as before, or a directory that was made
* `FileTree.AddsDirectories` — one tree is another with directories added on some ways
* `FileTree.IsWellNamed` — names hold no slashes

## Main results

* `exists_of_writeFile` — what writing a file does
* `writeFile_join` — a file of a directory is written directly inside it
* `addsDirectories_makeDirectories`, `exists_leadsTo_of_makeDirectories` — what making directories
  does
* `IsWellNamed.writeFile`, `IsWellNamed.makeDirectories` — trees stay well-named
-/

namespace DocMarkdown.FileTree

variable {tree before middle after : FileTree} {here location other base : Location}
  {name path : String} {names : List String} {ways ways' : List (List String)} {node : Node}
  {place : Place} {contents : ByteArray}

/-! ### Writing a file -/

/-- Putting a node where no directory is changes nothing else. -/
theorem node?_put_of_free (free : tree.node? location ≠ some .directory) (other : Location) :
    (tree.put location node).node? other =
      if location = other then some node else tree.node? other := by
  rw [node?_put]
  split
  · next top =>
    subst top
    have apart : location ≠ [] := fun top => free (by rw [top, node?, if_pos rfl])
    rw [if_neg apart, node?, if_pos rfl]
  · rfl

theorem keeps_put (free : tree.node? location ≠ some .directory) :
    tree.Keeps (tree.put location node) := by
  intro l there
  have apart : location ≠ l := fun same => free (same ▸ there)
  rw [node?_put_of_free free, if_neg apart, there]

theorem writeFile_of_locate {found : Option Node}
    (located : tree.locate path = .ok (.of location found)) (other : found ≠ some .directory) :
    tree.writeFile path contents =
      if Path.endsInSlash path then .error .isDirectory
      else .ok (tree.put location (.file contents)) := by
  rw [writeFile, located]
  cases found with
  | none => rfl
  | some node =>
    cases node with
    | directory => exact absurd rfl other
    | file old => rfl

/-- A file is written where its path leads, in a place where no directory is. -/
theorem exists_of_writeFile (written : before.writeFile path contents = .ok after) :
    ∃ location, before.node? location ≠ some .directory ∧
      before.locate path = .ok (.of location (before.node? location)) ∧
      after = before.put location (.file contents) := by
  cases located : before.locate path with
  | error e =>
    rw [writeFile, located] at written
    cases written
  | ok place =>
    by_cases directory : ∃ l, place = .directory l
    · obtain ⟨l, rfl⟩ := directory
      rw [writeFile, located] at written
      cases written
    · obtain ⟨names, -, found⟩ := locate_eq_ok_iff.mp located
      obtain ⟨location, rfl, free⟩ := exists_of_follow found (not_exists.mp directory)
      rw [writeFile_of_locate located free] at written
      split at written
      · cases written
      · exact ⟨location, free, rfl, (Except.ok.inj written).symm⟩

/-- What is written is found where it was written. -/
theorem locate_of_writeFile
    (located : before.locate path = .ok (.of location (before.node? location)))
    (free : before.node? location ≠ some .directory) :
    (before.put location (.file contents)).locate path = .ok (.file location contents) := by
  rw [(keeps_put free).locate_of located free, node?_put_of_free free, if_pos rfl]
  rfl

/-! ### Files of a directory -/

/-- A path leads to a directory. The empty path stands for the top. -/
def LeadsTo (tree : FileTree) (path : String) (base : Location) : Prop :=
  path = "" ∧ base = [] ∨ tree.locate path = .ok (.directory base)

theorem Keeps.leadsTo (keeps : before.Keeps after) (leads : before.LeadsTo path base) :
    after.LeadsTo path base :=
  leads.imp_right keeps.locate

/-- A name in a directory means a location directly inside the directory. -/
theorem location_of_join {found : Option Node} (part : Path.IsPart name)
    (leads : tree.LeadsTo path base)
    (located : tree.locate (Path.join path name) = .ok (.of location found))
    (other : found ≠ some .directory) : location = base ++ [name] := by
  obtain ⟨names, named, way⟩ := locate_eq_ok_iff.mp located
  obtain ⟨front, rfl, outer⟩ := Path.names_join part named
  -- All names but the last go the way of the directory itself.
  have entered : front.foldlM tree.enter [] = .ok base := by
    rcases outer with ⟨rfl, rfl⟩ | outer
    · rcases leads with ⟨-, rfl⟩ | leads
      · rfl
      · cases leads
    · rcases leads with ⟨rfl, -⟩ | leads
      · cases outer
      · obtain ⟨names, named, found⟩ := locate_eq_ok_iff.mp leads
        rw [outer] at named
        obtain rfl := Except.ok.inj named
        exact follow_eq_directory_iff.mp found
  obtain ⟨front', last, directory, same, -, -, walked, place⟩ :=
    exists_way way fun l same => other (Place.of_eq_directory_iff.mp same).1
  obtain ⟨rfl, last_eq⟩ := List.append_inj' same rfl
  obtain rfl := (List.cons.inj last_eq).1
  obtain rfl := Except.ok.inj (entered.symm.trans walked)
  exact (Place.of_inj.mp place).1

/-- A file of a directory is written directly inside it. -/
theorem writeFile_join (part : Path.IsPart name) (leads : before.LeadsTo path base)
    (written : before.writeFile (Path.join path name) contents = .ok after) :
    before.node? (base ++ [name]) ≠ some .directory ∧
      after = before.put (base ++ [name]) (.file contents) ∧
      after.locate (Path.join path name) = .ok (.file (base ++ [name]) contents) := by
  obtain ⟨location, free, located, rfl⟩ := exists_of_writeFile written
  obtain rfl := location_of_join part leads located free
  exact ⟨free, rfl, locate_of_writeFile located free⟩

/-! ### Making directories -/

/-- A location is as before, or it was vacant and now is a directory, to which one of several ways
leads. -/
def SameOrMade (ways : List (List String)) (before after : FileTree) (location : Location) : Prop :=
  after.node? location = before.node? location ∨
    before.node? location = none ∧ after.node? location = some .directory ∧
      ∃ names ∈ ways, after.follow [] names = .ok (.directory location)

/-- One tree is another with directories added, each where one of several ways leads. -/
def AddsDirectories (ways : List (List String)) (before after : FileTree) : Prop :=
  ∀ location, SameOrMade ways before after location

theorem AddsDirectories.refl (ways : List (List String)) (tree : FileTree) :
    AddsDirectories ways tree tree := fun _ => .inl rfl

theorem AddsDirectories.keeps (adds : AddsDirectories ways before after) :
    before.Keeps after := by
  intro location there
  rcases adds location with same | ⟨nothing, -⟩
  · rw [same, there]
  · rw [nothing] at there
    cases there

theorem AddsDirectories.trans (earlier : AddsDirectories ways before middle)
    (later : AddsDirectories ways' middle after) :
    AddsDirectories (ways ++ ways') before after := by
  intro location
  rcases later location with same | ⟨nothing, made, names, member, leads⟩
  · rcases earlier location with same' | ⟨nothing, made, names, member, leads⟩
    · exact .inl (same.trans same')
    · exact .inr ⟨nothing, same.trans made, names, List.mem_append_left _ member,
        later.keeps.follow leads⟩
  · refine .inr ⟨?_, made, names, List.mem_append_right _ member, leads⟩
    rcases earlier location with same | ⟨nothing', -⟩
    · rw [← same, nothing]
    · exact nothing'

theorem AddsDirectories.mono (adds : AddsDirectories ways before after) (among : ways ⊆ ways') :
    AddsDirectories ways' before after := by
  intro location
  rcases adds location with same | ⟨nothing, made, names, member, leads⟩
  · exact .inl same
  · exact .inr ⟨nothing, made, names, among member, leads⟩

/-- A directory is made where its names lead, where nothing was. -/
theorem exists_of_makeDirectory (made : before.makeDirectory names = .ok after) :
    ∃ location, before.node? location = none ∧ after = before.put location .directory ∧
      after.follow [] names = .ok (.directory location) := by
  rw [makeDirectory] at made
  cases found : before.follow [] names with
  | error e =>
    rw [found] at made
    cases made
  | ok place =>
    rw [found] at made
    cases place with
    | directory location | file location old => cases made
    | vacant location =>
      obtain rfl := Except.ok.inj made
      obtain ⟨own, same, free⟩ := exists_of_follow found (by simp)
      obtain ⟨nothing, rfl⟩ := Place.of_eq_vacant_iff.mp same.symm
      refine ⟨own, nothing, rfl, ?_⟩
      rw [same] at found
      rw [(keeps_put free).follow_of found free, node?_put_of_free free, if_pos rfl]
      rfl

theorem addsDirectories_ensureDirectory (made : before.ensureDirectory names = .ok after) :
    AddsDirectories [names] before after ∧
      ∃ location, after.follow [] names = .ok (.directory location) := by
  rw [ensureDirectory] at made
  split at made
  · next new own =>
    obtain rfl := Except.ok.inj made
    obtain ⟨location, nothing, rfl, leads⟩ := exists_of_makeDirectory own
    have free : before.node? location ≠ some .directory := by simp [nothing]
    refine ⟨fun other => ?_, location, leads⟩
    by_cases same : location = other
    · subst same
      exact .inr ⟨nothing, by rw [node?_put_of_free free, if_pos rfl], names,
        List.mem_singleton_self names, leads⟩
    · exact .inl (by rw [node?_put_of_free free, if_neg same])
  · split at made
    · next location leads =>
      obtain rfl := Except.ok.inj made
      exact ⟨.refl _ _, location, leads⟩
    · cases made

/-- Ways are gone one after another: directories are added on them, also before a failure, and if
there is none each way leads to a directory. -/
theorem addsDirectories_ensureDirectories (ways : List (List String)) (before : FileTree) :
    AddsDirectories ways before (before.ensureDirectories ways).2 ∧
      ((before.ensureDirectories ways).1 = .ok () → ∀ names ∈ ways,
        ∃ location,
          (before.ensureDirectories ways).2.follow [] names = .ok (.directory location)) := by
  -- A way that leads to a directory goes on leading there while others are gone.
  induction ways generalizing before with
  | nil => exact ⟨.refl _ _, by simp⟩
  | cons names ways ih =>
    rw [ensureDirectories]
    cases made : before.ensureDirectory names with
    | error e => exact ⟨.refl _ _, by simp⟩
    | ok middle =>
      obtain ⟨first, location, leads⟩ := addsDirectories_ensureDirectory made
      obtain ⟨others, found⟩ := ih middle
      refine ⟨first.trans others, fun success names' member => ?_⟩
      rcases List.mem_cons.mp member with rfl | member
      · exact ⟨location, others.keeps.follow leads⟩
      · exact found success names' member

/-- The ways on which directories are made for a path: those to the directories above it, and its
own. -/
def waysTo (path : String) : List (List String) :=
  match Path.names path with
  | .ok names => waysAbove names ++ [names]
  | .error _ => []

/-- Making a directory for the empty path does nothing; otherwise it fails at once, or goes some of
the ways for the path, of which its own is one. -/
theorem makeDirectories_cases (tree : FileTree) (path : String) :
    path = "" ∧ tree.makeDirectories path = (.ok (), tree) ∨
      (∃ reason, tree.makeDirectories path = (.error reason, tree)) ∨
      ∃ names ways, Path.names path = .ok names ∧ names ∈ ways ∧ ways ⊆ waysTo path ∧
        tree.makeDirectories path = tree.ensureDirectories ways := by
  rw [makeDirectories]
  split
  · next empty => exact .inl ⟨by simpa using empty, rfl⟩
  · cases named : Path.names path with
    | error reason => exact .inr (.inl ⟨reason, rfl⟩)
    | ok names =>
      have all : waysTo path = waysAbove names ++ [names] := by rw [waysTo, named]
      refine .inr (.inr ⟨names, ?_⟩)
      dsimp only
      split
      · exact ⟨_, rfl, by simp, all ▸ List.Subset.refl _, rfl⟩
      · exact ⟨_, rfl, by simp, all ▸ List.subset_append_right _ _, rfl⟩

/-- Directories are added on the way to the one that is made, also before a failure. -/
theorem addsDirectories_makeDirectories (before : FileTree) (path : String) :
    AddsDirectories (waysTo path) before (before.makeDirectories path).2 := by
  rcases makeDirectories_cases before path with
    ⟨-, same⟩ | ⟨reason, same⟩ | ⟨_, ways, -, -, among, same⟩
  · rw [same]
    exact .refl _ _
  · rw [same]
    exact .refl _ _
  · rw [same]
    exact (addsDirectories_ensureDirectories ways before).1.mono among

/-- A directory that is made is there. -/
theorem exists_leadsTo_of_makeDirectories (made : before.makeDirectories path = (.ok (), after)) :
    ∃ base, after.LeadsTo path base := by
  rcases makeDirectories_cases before path with
    ⟨empty, -⟩ | ⟨reason, same⟩ | ⟨names, ways, named, own, -, same⟩
  · exact ⟨[], .inl ⟨empty, rfl⟩⟩
  · rw [same] at made
    cases made
  · rw [same] at made
    have led := (addsDirectories_ensureDirectories ways before).2
    rw [made] at led
    obtain ⟨base, leads⟩ := led rfl names own
    exact ⟨base, .inr (locate_eq_ok_iff.mpr ⟨names, named, leads⟩)⟩

/-! ### Names without slashes -/

/-- Every name on the way to what stands somewhere is one that a path can spell. -/
def IsWellNamed (tree : FileTree) : Prop :=
  ∀ location node, tree.node? location = some node → ∀ name ∈ location, Path.IsPart name

theorem isWellNamed_empty : empty.IsWellNamed := by
  intro location node there
  by_cases top : location = []
  · subst top
    simp
  · simp [node?, empty, top] at there

theorem isPart_of_enter (parts : ∀ n ∈ here, Path.IsPart n) (part : Path.IsPart name)
    (entered : tree.enter here name = .ok location) : ∀ n ∈ location, Path.IsPart n := by
  rcases look_eq_directory_iff.mp (enter_eq_ok_iff.mp entered) with
    ⟨-, rfl⟩ | ⟨-, rfl⟩ | ⟨-, -, -, rfl⟩
  · exact parts
  · exact fun n member => parts n (List.mem_of_mem_dropLast member)
  · intro n member
    rcases List.mem_append.mp member with outer | own
    · exact parts n outer
    · exact List.mem_singleton.mp own ▸ part

/-- Directories that parts of paths lead through have the names of such parts. -/
theorem isPart_of_way (parts : ∀ n ∈ here, Path.IsPart n) (spelled : ∀ n ∈ names, Path.IsPart n)
    (way : names.foldlM tree.enter here = .ok location) : ∀ n ∈ location, Path.IsPart n := by
  induction names generalizing here with
  | nil =>
    obtain rfl := Except.ok.inj way
    exact parts
  | cons name names ih =>
    rw [List.foldlM_cons] at way
    cases entered : tree.enter here name with
    | error e => simp [entered, bind, Except.bind] at way
    | ok next =>
      rw [entered] at way
      exact ih (isPart_of_enter parts (spelled name List.mem_cons_self) entered)
        (fun n member => spelled n (List.mem_cons_of_mem _ member)) way

theorem isPart_of_locate {found : Option Node}
    (located : tree.locate path = .ok (.of location found)) (other : found ≠ some .directory) :
    ∀ n ∈ location, Path.IsPart n := by
  obtain ⟨names, named, way⟩ := locate_eq_ok_iff.mp located
  obtain ⟨front, last, directory, rfl, -, -, walked, same⟩ :=
    exists_way way fun l same => other (Place.of_eq_directory_iff.mp same).1
  rw [(Place.of_inj.mp same).1]
  have spelled : ∀ n ∈ front ++ [last], Path.IsPart n := fun n => Path.isPart_of_names named
  intro n member
  rcases List.mem_append.mp member with outer | own
  · exact isPart_of_way (by simp) (fun n member => spelled n (List.mem_append_left _ member))
      walked n outer
  · exact spelled n (List.mem_append_right _ own)

theorem IsWellNamed.put (named : tree.IsWellNamed) (parts : ∀ n ∈ location, Path.IsPart n) :
    (tree.put location node).IsWellNamed := by
  intro other node' there
  rw [node?_put] at there
  split at there
  · next top => simp [top]
  · split at there
    · next same => exact same ▸ parts
    · exact named other node' there

theorem IsWellNamed.writeFile (named : before.IsWellNamed)
    (written : before.writeFile path contents = .ok after) : after.IsWellNamed := by
  obtain ⟨location, free, located, rfl⟩ := exists_of_writeFile written
  exact named.put (isPart_of_locate located free)

theorem AddsDirectories.isWellNamed (adds : AddsDirectories ways before after)
    (named : before.IsWellNamed) (spelled : ∀ names ∈ ways, ∀ n ∈ names, Path.IsPart n) :
    after.IsWellNamed := by
  intro location node there
  rcases adds location with same | ⟨-, -, names, member, leads⟩
  · exact named location node (same ▸ there)
  · exact isPart_of_way (by simp) (spelled names member) (follow_eq_directory_iff.mp leads)

theorem isPart_of_waysTo (member : names ∈ waysTo path) : ∀ n ∈ names, Path.IsPart n := by
  rw [waysTo] at member
  split at member
  · next whole named =>
    intro n part
    apply Path.isPart_of_names named
    rcases List.mem_append.mp member with above | own
    · obtain ⟨count, -, rfl⟩ := List.mem_map.mp above
      exact List.mem_of_mem_filter (List.mem_of_mem_take part)
    · rwa [List.mem_singleton.mp own] at part
  · cases member

theorem IsWellNamed.makeDirectories (named : tree.IsWellNamed) (path : String) :
    (tree.makeDirectories path).2.IsWellNamed :=
  (addsDirectories_makeDirectories tree path).isWellNamed named fun _ => isPart_of_waysTo

end DocMarkdown.FileTree
