import RayTally.Host
import RayTally.Proofs.Files.Growth

/-!
# What files hold

What a file holds is changed in three ways: bytes are appended to it, an export replaces it, or it
is made, empty, when a log file is opened that is not there yet. This module says what a location
holds after each of them, if there is a file or nothing. Where there is not room for all bytes the
first ones are kept.

## Main results

* `FileSystem.content?_append`: what is appended stands behind what was there.
* `Export.content?_save`: an export replaces what was there.
* `Host.opened_openLog`: opening a log file leaves what was there, and makes the file if need be.
-/

namespace RayTally

open FileSystem
open Sink (kept)

variable {fs fs' : FileSystem} {l m : Location} {p : Path} {t : Tally}

namespace FileSystem

/-- What the **file at a location** holds, if there is one. -/
def content? (fs : FileSystem) (m : Location) : Option Bytes :=
  match fs.node? m with
  | some (.file content) => some content
  | _ => none

theorem content?_eq_some_iff {content : Bytes} :
    fs.content? m = some content ↔ fs.node? m = some (.file content) := by
  rw [content?]
  split
  · rename_i content' hnode
    simp [hnode]
  · rename_i hno
    exact iff_of_false nofun fun hfile => hno content hfile

/-- What the same node holds is the same. -/
theorem content?_congr (h : fs'.node? m = fs.node? m) : fs'.content? m = fs.content? m := by
  rw [content?, content?, h]

/-- Where a file holds something there is a file. -/
theorem holdsFile_of_content? {content : Bytes} (h : fs.content? m = some content) :
    fs.HoldsFile m :=
  .inr ⟨content, content?_eq_some_iff.mp h⟩

/-- The same node in trees with the same limit takes the same. -/
theorem sinkAt_congr (h : fs'.node? m = fs.node? m) (hlargest : fs'.largestFile = fs.largestFile) :
    fs'.sinkAt m = fs.sinkAt m := by
  rw [sinkAt, sinkAt, h, hlargest]

/-- **What is appended** stands behind what was there, as far as there is room for it. Where there
is no file nothing is kept. -/
theorem content?_append (fs : FileSystem) (l : Location) (bs : Bytes) (m : Location) :
    (fs.append l bs).2.content? m =
      if m = l then (fs.content? m).map (kept fs.largestFile · bs) else fs.content? m := by
  split
  · rename_i hml
    subst hml
    rw [append_eq, store]
    cases hcontent : fs.content? m with
    | some held =>
      have hnode := content?_eq_some_iff.mp hcontent
      have hne : m ≠ [] := by
        rintro rfl
        cases hnode
      have hsink : fs.sinkAt m =
          { written := held, limit := fs.largestFile, whenFull := .fail (.system .noSpace) } := by
        rw [sinkAt, hnode]
      rw [hnode]
      refine content?_eq_some_iff.mpr ?_
      rw [node?_put, if_pos ⟨rfl, hne⟩, Sink.written_after, hsink]
    | none =>
      split
      · rename_i content hnode
        rw [content?_eq_some_iff.mpr hnode] at hcontent
        cases hcontent
      · exact hcontent
  · rename_i hml
    exact content?_congr ((agreesOff_append fs l bs).node? m hml)

end FileSystem

/-! ### Exports -/

namespace Export

/-- **Saving** changes nothing but where the path leads. -/
theorem node?_save_of_ne (hp : fs.resolve .create p ≠ .ok m) :
    (save t p fs).2.node? m = fs.node? m := by
  cases hl : fs.resolve .create p with
  | error e => rw [save_of_error hl]
  | ok l =>
    have hml : m ≠ l := fun hml => hp (hml ▸ hl)
    have htruncate : (fs.truncate l).node? m = fs.node? m := by
      rw [truncate]
      split
      · rfl
      · rw [node?_put, if_neg fun h => hml h.1]
    rw [save_eq_writeFile, writeFile, create, hl]
    exact ((agreesOff_append _ l _).node? m hml).trans htruncate

/-- A file is **emptied** when an export to it is opened, and made if it is not there. -/
theorem node?_truncate (hm : fs.HoldsFile m) : (fs.truncate m).node? m = some (.file []) := by
  have hne : m ≠ [] := by
    rintro rfl
    rcases hm with hnone | ⟨content, hfile⟩
    · cases hnone
    · cases hfile
  rw [truncate]
  split
  · rename_i d hd
    exact absurd hd (hm.ne_device d)
  · rw [node?_put, if_pos ⟨rfl, hne⟩]

/-- **An export** replaces what was there, as far as there is room for it. -/
theorem content?_save (hm : fs.HoldsFile m) : (save t p fs).2.content? m =
    if fs.resolve .create p = .ok m then some (kept fs.largestFile [] (bytes t))
    else fs.content? m := by
  split
  · rename_i hp
    have hempty := content?_eq_some_iff.mpr (node?_truncate hm)
    have hlargest : (fs.truncate m).largestFile = fs.largestFile := by
      rw [truncate]
      split <;> rfl
    rw [save_eq_writeFile, writeFile, create, hp]
    dsimp only
    rw [content?_append, if_pos rfl, hempty, hlargest, Option.map_some]
  · rename_i hp
    exact content?_congr (node?_save_of_ne hp)

/-- Where there was a file or nothing, there still is, whatever room there is. -/
theorem holdsFile_save (hm : fs.HoldsFile m) : (save t p fs).2.HoldsFile m := by
  by_cases hp : fs.resolve .create p = .ok m
  · have hfile : (save t p fs).2.content? m = some (kept fs.largestFile [] (bytes t)) := by
      rw [content?_save hm, if_pos hp]
    exact holdsFile_of_content? hfile
  · rw [HoldsFile, node?_save_of_ne hp]
    exact hm

/-- **How saving ends** does not depend on what files hold. -/
theorem outcome_save_of_sameTree (h : SameTree fs fs') (t : Tally) (p : Path) :
    (save t p fs').1 = (save t p fs).1 := by
  have hput (l : Location) : (fs'.put l (.file [])).sinkAt l = (fs.put l (.file [])).sinkAt l := by
    have hnode : (fs'.put l (.file [])).node? l = (fs.put l (.file [])).node? l := by
      rw [node?_put, node?_put]
      split
      · rfl
      · rename_i hroot
        obtain rfl : l = [] := not_not.mp fun hne => hroot ⟨rfl, hne⟩
        rfl
    exact sinkAt_congr hnode h.largestFile
  have hsink (l : Location) : (fs'.truncate l).sinkAt l = (fs.truncate l).sinkAt l := by
    rw [truncate, truncate]
    rcases h.node? l with hnode | ⟨old, new, hold, hnew⟩
    · rw [hnode]
      split
      · exact sinkAt_congr hnode h.largestFile
      · exact hput l
    · rw [hold, hnew]
      exact hput l
  rw [save_eq_writeFile, save_eq_writeFile, writeFile, writeFile, create, create, h.resolve_eq]
  cases fs.resolve .create p with
  | error e => rfl
  | ok l =>
    dsimp only
    rw [append_eq, append_eq, hsink]

end Export

/-! ### Log files -/

namespace Host

variable {h h' : Host} {path : Option Path} {file : Option Location} {e : Failure}

/-- **Where the log file is** that a path asks for, if it asks for one and the file can be
opened. -/
def logTarget (h : Host) : Option Path → Except Failure (Option Location)
  | none => .ok none
  | some p => (h.files.resolve .create p).map some

/-- **A log file is opened** where its path leads. -/
theorem openLog_fst (h : Host) (path : Option Path) : (h.openLog path).1 = h.logTarget path := by
  cases path with
  | none => rfl
  | some p =>
    rw [openLog, openToAppend, logTarget]
    cases h.files.resolve .create p <;> rfl

/-- A log file that **cannot be opened** changes nothing. -/
theorem openLog_of_error (he : h.logTarget path = .error e) : (h.openLog path).2 = h := by
  cases path with
  | none => cases he
  | some p =>
    rw [logTarget] at he
    rw [openLog, openToAppend]
    cases hl : h.files.resolve .create p with
    | error e' => rfl
    | ok l =>
      rw [hl] at he
      cases he

/-- **A log file was opened**, if one was asked for: it is made if nothing was there, and all else
is as it was. -/
structure Opened (h : Host) (file : Option Location) (h' : Host) : Prop where
  logger : h'.logger = h.logger
  stamp : h'.stamp = h.stamp
  console : h'.console = h.console
  largestFile : h'.files.largestFile = h.files.largestFile
  node? : ∀ m, h'.files.node? m =
    if file = some m ∧ h.files.node? m = none then some (.file []) else h.files.node? m

namespace Opened

/-- Nothing has to be made if there is **something already**, or no log file is asked for. -/
theorem refl (hthere : ∀ m, file = some m → h.files.node? m ≠ none) : h.Opened file h :=
  ⟨rfl, rfl, rfl, rfl, fun m => (if_neg fun hnone => hthere m hnone.1 hnone.2).symm⟩

/-- An **empty file** is made where nothing was. -/
theorem put {l : Location} (hnone : h.files.node? l = none) :
    h.Opened (some l) { h with files := h.files.put l (.file []) } := by
  have hne : l ≠ [] := by
    rintro rfl
    cases hnone
  refine ⟨rfl, rfl, rfl, rfl, fun m => ?_⟩
  by_cases hml : m = l
  · subst hml
    rw [if_pos ⟨rfl, hnone⟩, node?_put, if_pos ⟨rfl, hne⟩]
  · rw [if_neg fun heq => hml (Option.some.inj heq.1).symm, node?_put, if_neg fun heq => hml heq.1]

/-- Where there was a file or nothing, there still is. -/
theorem holdsFile (ho : h.Opened file h') {m : Location} (hm : h.files.HoldsFile m) :
    h'.files.HoldsFile m := by
  rw [HoldsFile, ho.node?]
  split
  · exact .inr ⟨[], rfl⟩
  · exact hm

/-- **The log file** holds what it held, or nothing if it was made. -/
theorem content? (ho : h.Opened file h') {m : Location} (hm : h.files.HoldsFile m) :
    h'.files.content? m =
      if file = some m then some ((h.files.content? m).getD []) else h.files.content? m := by
  have hnode := ho.node? m
  by_cases hfile : file = some m
  · rw [if_pos hfile]
    rcases hm with hnone | ⟨content, hcontent⟩
    · rw [if_pos ⟨hfile, hnone⟩] at hnode
      rw [content?_eq_some_iff.mpr hnode, FileSystem.content?, hnone]
      rfl
    · have hthere : h.files.node? m ≠ none := by
        rw [hcontent]
        exact Option.some_ne_none _
      rw [if_neg fun heq => hthere heq.2] at hnode
      rw [content?_congr hnode, content?_eq_some_iff.mpr hcontent]
      rfl
  · rw [if_neg fun heq => hfile heq.1] at hnode
    rw [if_neg hfile]
    exact content?_congr hnode

end Opened

/-- **Opening a log file** makes it if need be, and does no more. -/
theorem opened_openLog (ho : h.logTarget path = .ok file) : h.Opened file (h.openLog path).2 := by
  cases path with
  | none =>
    cases ho
    refine .refl fun m hm => ?_
    cases hm
  | some p =>
    rw [logTarget] at ho
    rw [openLog, openToAppend]
    cases hl : h.files.resolve .create p with
    | error e =>
      rw [hl] at ho
      cases ho
    | ok l =>
      rw [hl] at ho
      cases ho
      cases hnode : h.files.node? l with
      | none => simpa [hnode] using Opened.put hnode
      | some node =>
        have hthere (m : Location) (hm : some l = some m) : h.files.node? m ≠ none := by
          rw [← Option.some.inj hm, hnode]
          exact Option.some_ne_none node
        simpa [hnode] using Opened.refl hthere

end Host

end RayTally
