import RayTally.Files.Access

/-!
# What is created is found again

A path is walked twice: once when its file is created, and again when somebody looks for the file.
In between the tree has changed, at the location where the first walk arrived. The second walk
arrives there as well, over the same directories and links: none of them can be what was replaced.
That holds of all trees, also of those whose working directory is no directory any more.

What is written into files does not matter to where paths lead.

## Main results

* `FileSystem.follow_ne_of_link`: who has been sent away by a link does not come back to it.
* `FileSystem.resolve_read_of_create`: a path leads to what was created for it.
* `FileSystem.SameTree.resolve_eq`: paths lead to the same locations in trees of one shape.
* `FileSystem.sameTree_append` / `FileSystem.agreesOff_append`: what is appended to a file changes
  only what that file holds, so another file reads as before (`FileSystem.readFile_append_of_ne`).
-/

namespace RayTally.FileSystem

variable {fs fs' : FileSystem} {a : Access} {slash : Bool} {l cur : Location} {ns : List Name}
  {p : Path}

/-- The location or the directory that a walk has come to. -/
def Walk.place : Walk → Location
  | .arrived l => l
  | .atLink directory _ _ => directory

/-! ### Steps of a walk -/

/-- A name that is **looked up**: it does not stand for this directory or the one above, it is not
too long, and it is not to be created as a directory. -/
def IsLookedUp (a : Access) (slash : Bool) (n : Name) (rest : List Name) : Prop :=
  n ≠ Path.here ∧ n ≠ Path.above ∧ ¬(a = .create ∧ rest.isEmpty ∧ slash) ∧ ¬longestName < n.length

variable {n : Name} {rest : List Name}

/-- A directory is walked on from. -/
theorem walk_directory (hn : IsLookedUp a slash n rest)
    (hnode : fs.node? (cur ++ [n]) = some .directory) :
    fs.walk a slash cur (n :: rest) = fs.walk a slash (cur ++ [n]) rest := by
  obtain ⟨hhere, habove, hslash, hshort⟩ := hn
  rw [walk, if_neg hhere, if_neg habove, if_neg hslash, if_neg hshort, hnode]

/-- A file ends the walk. -/
theorem walk_file {content : Bytes} (hn : IsLookedUp a slash n rest)
    (hnode : fs.node? (cur ++ [n]) = some (.file content)) :
    fs.walk a slash cur (n :: rest) = arriveFile (cur ++ [n]) rest slash := by
  obtain ⟨hhere, habove, hslash, hshort⟩ := hn
  rw [walk, if_neg hhere, if_neg habove, if_neg hslash, if_neg hshort, hnode]

/-- A link interrupts the walk. -/
theorem walk_link {target : Path} (hn : IsLookedUp a slash n rest)
    (hnode : fs.node? (cur ++ [n]) = some (.link target)) :
    fs.walk a slash cur (n :: rest) = .ok (.atLink cur target rest) := by
  obtain ⟨hhere, habove, hslash, hshort⟩ := hn
  rw [walk, if_neg hhere, if_neg habove, if_neg hslash, if_neg hshort, hnode]

/-! ### Links that send away -/

/-- A location that is not above a directory is above an entry of it only as the entry itself. -/
theorem eq_of_prefix_concat (hcur : ¬l <+: cur) (h : l <+: cur ++ [n]) : cur ++ [n] = l :=
  ((List.prefix_concat_iff.mp h).resolve_right hcur).symm

/-- A walk that is neither at a link nor below it **does not get there**. -/
theorem walk_not_prefix {target : Path} (hlink : fs.node? l = some (.link target))
    (hcur : ¬l <+: cur) {w : Walk} (h : fs.walk a slash cur ns = .ok w) : ¬l <+: w.place := by
  have hentry {m : Location} {n : Name} (hm : ¬l <+: m)
      (hne : fs.node? (m ++ [n]) ≠ some (.link target)) : ¬l <+: m ++ [n] :=
    fun hpre => hne (eq_of_prefix_concat hm hpre ▸ hlink)
  fun_induction walk fs a slash cur ns with
  | case1 m =>
    cases h
    exact hcur
  | case2 m rest ih => exact ih hcur h
  | case3 m rest _ ih => exact ih (fun hpre => hcur (hpre.trans (List.dropLast_prefix m))) h
  | case4 | case5 | case7 => cases h
  | case6 m n rest _ _ _ _ hnode =>
    cases a with
    | read => cases h
    | create =>
      cases h
      exact hentry hcur (by rw [hnode]; exact nofun)
  | case8 m n rest _ _ _ _ hnode ih => exact ih (hentry hcur (by rw [hnode]; exact nofun)) h
  | case9 m n rest _ _ _ _ content hnode | case10 m n rest _ _ _ _ d hnode =>
    rw [arriveFile] at h
    split at h
    · cases h
      exact hentry hcur (by rw [hnode]; exact nofun)
    · cases h
  | case11 m n rest _ _ _ _ target' hnode =>
    cases h
    exact hcur

/-- Who has been sent away by a link **does not come back to it**. -/
theorem follow_ne_of_link {target : Path} (hlink : fs.node? l = some (.link target))
    {links : Nat} (hcur : ¬l <+: cur) : fs.follow a links slash cur ns ≠ .ok l := by
  have hroot : ¬l <+: [] := by
    intro hpre
    rw [List.prefix_nil.mp hpre] at hlink
    cases hlink
  fun_induction follow fs a links slash cur ns with
  | case1 _ _ _ _ e => exact nofun
  | case2 _ _ _ _ m hw =>
    intro h
    cases h
    exact walk_not_prefix hlink hcur hw List.prefix_rfl
  | case3 => exact nofun
  | case4 _ m names directory target' rest hw _ ih =>
    refine ih ?_
    split
    · exact hroot
    · exact walk_not_prefix hlink hcur hw

/-! ### What is created -/

/-- Two trees differ **at most at one location**. -/
structure AgreesOff (l : Location) (fs fs' : FileSystem) : Prop where
  workingDirectory : fs'.workingDirectory = fs.workingDirectory
  node? : ∀ m, m ≠ l → fs'.node? m = fs.node? m

/-- A walk to a location where something is created **goes the same way** once a file is there,
unless it is sent away by a link at that location. -/
theorem walk_read_of_create {content : Bytes} (hl : fs.node? l ≠ some .directory)
    (hoff : AgreesOff l fs fs') (hfile : fs'.node? l = some (.file content)) {w : Walk}
    (h : fs.walk .create slash cur ns = .ok w) (hw : ∀ m, w = .arrived m → m = l) :
    fs'.walk .read slash cur ns = .ok w ∨
      ∃ target, fs.node? l = some (.link target) ∧ ¬l <+: w.place := by
  have hread {n : Name} {rest : List Name} (hhere : n ≠ Path.here) (habove : n ≠ Path.above)
      (hshort : ¬longestName < n.length) : IsLookedUp .read slash n rest :=
    ⟨hhere, habove, fun hslash => Access.noConfusion hslash.1, hshort⟩
  fun_induction walk fs .create slash cur ns with
  | case1 m => exact .inl (by rw [walk, h])
  | case2 m rest ih =>
    rw [walk, if_pos rfl]
    exact ih h
  | case3 m rest hhere ih =>
    rw [walk, if_neg hhere, if_pos rfl]
    exact ih h
  | case4 | case5 | case7 => cases h
  | case6 m n rest hhere habove hslash hshort hnode hlast =>
    left
    cases h
    have hml := hw _ rfl
    have hclosed : (rest.isEmpty && !slash) = true := by simp_all
    rw [walk_file (hread hhere habove hshort) (hml ▸ hfile), arriveFile, if_pos hclosed]
  | case8 m n rest hhere habove hslash hshort hnode ih =>
    have hml : m ++ [n] ≠ l := fun hml => hl (hml ▸ hnode)
    rw [walk_directory (hread hhere habove hshort) (hoff.node? _ hml ▸ hnode)]
    exact ih h
  | case9 m n rest hhere habove hslash hshort content' hnode
  | case10 m n rest hhere habove hslash hshort d hnode =>
    left
    rw [arriveFile] at h
    split at h
    · rename_i hclosed
      cases h
      have hml := hw _ rfl
      rw [walk_file (hread hhere habove hshort) (hml ▸ hfile), arriveFile, if_pos hclosed]
    · cases h
  | case11 m n rest hhere habove hslash hshort target hnode =>
    cases h
    by_cases hml : m ++ [n] = l
    · right
      refine ⟨target, hml ▸ hnode, fun hpre => ?_⟩
      have := hpre.length_le
      rw [← hml, List.length_append, List.length_singleton, Walk.place] at this
      omega
    · left
      rw [walk_link (hread hhere habove hshort) (hoff.node? _ hml ▸ hnode)]

/-- The same of the whole way, over all links. -/
theorem follow_read_of_create {content : Bytes} (hl : fs.node? l ≠ some .directory)
    (hoff : AgreesOff l fs fs') (hfile : fs'.node? l = some (.file content)) {links : Nat}
    (h : fs.follow .create links slash cur ns = .ok l) :
    fs'.follow .read links slash cur ns = .ok l := by
  have hroot : ¬l <+: [] := fun hpre => hl (by rw [List.prefix_nil.mp hpre]; rfl)
  fun_induction follow fs .create links slash cur ns with
  | case1 | case3 => cases h
  | case2 links slash m names m' hw =>
    cases h
    rcases walk_read_of_create hl hoff hfile hw (fun m hm => by cases hm; rfl) with
      hread | ⟨_, -, hpre⟩
    · rw [follow, hread]
    · exact absurd List.prefix_rfl hpre
  | case4 slash m names directory target rest hw _ ih =>
    rcases walk_read_of_create hl hoff hfile hw nofun with hread | ⟨target', hlink, hpre⟩
    · rw [follow, hread]
      exact ih h
    · refine absurd h (follow_ne_of_link hlink ?_)
      split
      · exact hroot
      · exact hpre

/-- What is to be created is no directory. -/
theorem ne_directory_of_resolve_create (h : fs.resolve .create p = .ok l) :
    fs.node? l ≠ some .directory := by
  intro hdir
  rw [resolve] at h
  split at h
  · cases h
  · split at h
    · cases h
    · split at h
      · cases h
      · rename_i hno
        cases h
        exact hno ⟨rfl, hdir⟩

/-- **A path leads to what was created for it**, in every tree that differs only there. -/
theorem resolve_read_of_create {content : Bytes} (h : fs.resolve .create p = .ok l)
    (hoff : AgreesOff l fs fs') (hfile : fs'.node? l = some (.file content)) :
    fs'.resolve .read p = .ok l := by
  have hl := ne_directory_of_resolve_create h
  have hstart : fs'.startOf p = fs.startOf p := by rw [startOf, startOf, hoff.workingDirectory]
  rw [resolve] at h ⊢
  split at h
  · cases h
  · split at h
    · cases h
    · rename_i m hfollow
      split at h
      · cases h
      · cases h
        rw [hstart, follow_read_of_create hl hoff hfile hfollow]
        exact if_neg (fun hread => nomatch hread.1)

/-! ### Trees of one shape -/

/-- Two trees differ **at most in what files hold**. -/
structure SameTree (fs fs' : FileSystem) : Prop where
  workingDirectory : fs'.workingDirectory = fs.workingDirectory
  largestFile : fs'.largestFile = fs.largestFile
  node? : ∀ m, fs'.node? m = fs.node? m ∨
    ∃ old new, fs.node? m = some (.file old) ∧ fs'.node? m = some (.file new)

theorem SameTree.refl (fs : FileSystem) : SameTree fs fs := ⟨rfl, rfl, fun _ => .inl rfl⟩

theorem SameTree.trans {fs'' : FileSystem} (h : SameTree fs fs') (h' : SameTree fs' fs'') :
    SameTree fs fs'' := by
  refine ⟨h'.workingDirectory.trans h.workingDirectory, h'.largestFile.trans h.largestFile,
    fun m => ?_⟩
  rcases h.node? m with hm | ⟨old, new, hold, hnew⟩ <;>
    rcases h'.node? m with hm' | ⟨old', new', hold', hnew'⟩
  · exact .inl (hm'.trans hm)
  · exact .inr ⟨old', new', hm ▸ hold', hnew'⟩
  · exact .inr ⟨old, new, hold, hm'.trans hnew⟩
  · exact .inr ⟨old, new', hold, hnew'⟩

/-- In trees of one shape the same directories, links and devices are at the same locations. -/
theorem SameTree.node?_eq_some_iff (h : SameTree fs fs') {m : Location} {node : Node}
    (hnode : ∀ content, node ≠ .file content) :
    fs'.node? m = some node ↔ fs.node? m = some node := by
  rcases h.node? m with hm | ⟨old, new, hold, hnew⟩
  · rw [hm]
  · rw [hold, hnew, Option.some.injEq, Option.some.injEq]
    exact ⟨fun heq => absurd heq.symm (hnode new), fun heq => absurd heq.symm (hnode old)⟩

theorem SameTree.walk_eq (h : SameTree fs fs') :
    fs'.walk a slash cur ns = fs.walk a slash cur ns := by
  induction ns generalizing cur with
  | nil => rw [walk, walk]
  | cons n rest ih =>
    rw [walk, walk]
    simp only [ih]
    rcases h.node? (cur ++ [n]) with hm | ⟨old, new, hold, hnew⟩
    · rw [hm]
    · rw [hold, hnew]

theorem SameTree.follow_eq (h : SameTree fs fs') {links : Nat} :
    fs'.follow a links slash cur ns = fs.follow a links slash cur ns := by
  induction links generalizing slash cur ns with
  | zero => rw [follow, follow, h.walk_eq]
  | succ links ih =>
    rw [follow, follow, h.walk_eq]
    simp only [ih]

/-- **Paths lead to the same locations** in trees of one shape. -/
theorem SameTree.resolve_eq (h : SameTree fs fs') : fs'.resolve a p = fs.resolve a p := by
  have hstart : fs'.startOf p = fs.startOf p := by rw [startOf, startOf, h.workingDirectory]
  have hdir (m : Location) : fs'.node? m = some .directory ↔ fs.node? m = some .directory :=
    h.node?_eq_some_iff nofun
  rw [resolve, resolve, hstart, h.follow_eq]
  simp only [hdir]

/-! ### Appending -/

/-- What a sink has taken is kept in the file it stands for. -/
theorem sameTree_store (fs : FileSystem) (l : Location) (s : Sink) :
    SameTree fs (fs.store l s) := by
  rw [store]
  split
  · rename_i content hfile
    refine ⟨rfl, rfl, fun m => ?_⟩
    rw [node?_put]
    split
    · rename_i hml
      exact .inr ⟨content, s.written, hml.1 ▸ hfile, rfl⟩
    · exact .inl rfl
  · exact .refl fs

/-- What is stored at one location is not found at others. -/
theorem agreesOff_store (fs : FileSystem) (l : Location) (s : Sink) :
    AgreesOff l fs (fs.store l s) := by
  rw [store]
  split
  · exact ⟨rfl, fun m hm => by rw [node?_put, if_neg fun h => hm h.1]⟩
  · exact ⟨rfl, fun _ _ => rfl⟩

/-- **Appending** changes only what files hold. -/
theorem sameTree_append (fs : FileSystem) (l : Location) (bs : Bytes) :
    SameTree fs (fs.append l bs).2 := sameTree_store fs l _

/-- **Appending** changes only the file it is about. -/
theorem agreesOff_append (fs : FileSystem) (l : Location) (bs : Bytes) :
    AgreesOff l fs (fs.append l bs).2 := agreesOff_store fs l _

/-- A file that is not appended to **reads as before**. -/
theorem readFile_append_of_ne (hp : fs.resolve .read p ≠ .ok l) (bs : Bytes) :
    (fs.append l bs).2.readFile p = fs.readFile p := by
  have hopen : (fs.append l bs).2.openToRead p = fs.openToRead p := by
    rw [openToRead, openToRead, (sameTree_append fs l bs).resolve_eq]
    cases hm : fs.resolve .read p with
    | error e => rfl
    | ok m =>
      have hne : m ≠ l := fun hml => hp (by rw [hm, hml])
      simp only [Except.map, sourceAt, (agreesOff_append fs l bs).node? m hne]
  rw [readFile, readFile, hopen]

end RayTally.FileSystem
