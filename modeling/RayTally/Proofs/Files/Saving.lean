import RayTally.Proofs.Files.Resolution
import RayTally.Proofs.Stream.Buffering
import RayTally.Report.Output

/-!
# What saving comes to

Saving an export can come to one of three ends: the path then leads to a file that holds exactly the
export; or the path leads nowhere where a file can be, and nothing has changed; or there is no room
for the export where the path leads. Which one it is, is decided by the tree, and is reported as it
is.

## Main results

* `Export.save_eq_writeFile`: saving is writing the bytes of the export into a file.
* `Export.save_of_full`: a device without space takes no export.
* `Export.save_of_open`: a file takes the export if there is room for it.
* `Export.saved_save`: saving comes to one of the three ends.
-/

namespace RayTally

open FileSystem
open Sink (Room)

variable {t : Tally} {p : Path} {fs fs' : FileSystem} {l : Location}

/-- A path leads to a device that **takes everything and keeps nothing**. -/
def FileSystem.Discards (fs : FileSystem) (p : Path) : Prop :=
  ∃ l, fs.resolve .create p = .ok l ∧ fs.node? l = some (.device .null)

/-- Files take what they are offered in one portion. -/
theorem FileSystem.chunk_sinkAt (fs : FileSystem) (l : Location) :
    (fs.sinkAt l).chunk ≠ some 0 := by
  rw [sinkAt]
  split <;> rintro ⟨⟩

/-- **What is written** behind the end of a file is what fits into it. -/
theorem FileSystem.append_eq (fs : FileSystem) (l : Location) (bs : Bytes) :
    fs.append l bs = ((fs.sinkAt l).verdict bs, fs.store l ((fs.sinkAt l).after bs)) := by
  rw [append, Sink.writeAll_eq (chunk_sinkAt fs l)]

namespace Export

/-- **What saving comes to**: an outcome, and a tree after it.

* The export is saved: its path leads to a file that holds exactly the export, and nothing else has
  changed.
* It is not opened: the path leads nowhere where a file can be created, for the reason that is
  given, and nothing has changed.
* It is not written: the path leads to a device without space, or to a file that the export would
  make larger than the largest one, and nothing else has changed. -/
inductive Saved (t : Tally) (p : Path) (fs fs' : FileSystem) : Except Failure Unit → Prop
  | saved {l : Location} (hl : fs.resolve .create p = .ok l) (hfound : fs'.resolve .read p = .ok l)
      (hfile : fs'.node? l = some (.file (bytes t))) (hoff : AgreesOff l fs fs') :
      Saved t p fs fs' (.ok ())
  | notOpened {why : Failure} (hp : fs.resolve .create p = .error why) (hsame : fs' = fs) :
      Saved t p fs fs' (.error why)
  | notWritten {l : Location} (hl : fs.resolve .create p = .ok l)
      (hroom : fs.node? l = some (.device .full) ∨ ¬Room fs.largestFile (bytes t).length)
      (hoff : AgreesOff l fs fs') : Saved t p fs fs' (.error (.system .noSpace))

/-- What was saved **is read back** as it was written. -/
theorem Saved.readFile_eq (h : Saved t p fs fs' (.ok ())) : fs'.readFile p = .ok (bytes t) := by
  cases h with
  | saved _ hfound hfile _ =>
    have hsource : fs'.openToRead p = .ok { rest := bytes t } := by
      rw [openToRead, hfound, Except.map, sourceAt, hfile]
    rw [readFile, hsource]
    rfl

/-- An export is not empty: it starts with its title. -/
theorem length_bytes_pos (t : Tally) : 0 < (bytes t).length := by
  have hhead : (bytes t).head? = some 35 := rfl
  cases hb : bytes t with
  | nil =>
    rw [hb] at hhead
    cases hhead
  | cons b bs => exact Nat.succ_pos _

/-- **Saving** is writing the bytes of the export into a file. That they are written in pieces, and
through a buffer, makes no difference. -/
theorem save_eq_writeFile (t : Tally) (p : Path) (fs : FileSystem) :
    save t p fs = fs.writeFile p (bytes t) := by
  rw [save, writeFile]
  cases fs.create p with
  | mk r fs' =>
    cases r with
    | error e => rfl
    | ok l =>
      have hthrough := BufferedSink.writeThrough_eq (b := { sink := fs'.sinkAt l })
        (chunk_sinkAt fs' l) ((pieces t).map Utf8.encode)
      rw [BufferedSink.unbuffered, List.nil_append, bytes_eq] at hthrough
      dsimp only
      rw [append, ← hthrough]

/-- **A device without space** takes no export. -/
theorem save_of_full (hl : fs.resolve .create p = .ok l)
    (hfull : fs.node? l = some (.device .full)) :
    save t p fs = (.error (.system .noSpace), fs) := by
  have hsink : fs.sinkAt l = { limit := some 0, whenFull := .fail (.system .noSpace) } := by
    rw [sinkAt, hfull]
  have htruncate : fs.truncate l = fs := by rw [truncate, hfull]
  have hno : (fs.sinkAt l).fitting (bytes t) ≠ bytes t := by
    rw [hsink]
    exact fun hnil => (List.length_pos_iff.mp (length_bytes_pos t)) hnil.symm
  rw [save_eq_writeFile, writeFile, create, hl]
  dsimp only
  rw [htruncate, append_eq, Sink.verdict, if_neg hno, store, hfull, hsink]
  rfl

/-- **A file** takes the export if there is room for it. -/
theorem save_of_open (hl : fs.resolve .create p = .ok l)
    (hdevice : ∀ d, fs.node? l ≠ some (.device d)) :
    ∃ fs', AgreesOff l fs fs' ∧
      (Room fs.largestFile (bytes t).length →
        save t p fs = (.ok (), fs') ∧ fs'.node? l = some (.file (bytes t))) ∧
      (¬Room fs.largestFile (bytes t).length → save t p fs = (.error (.system .noSpace), fs')) := by
  have hne : l ≠ [] := fun hnil => ne_directory_of_resolve_create hl (by rw [hnil]; rfl)
  have htruncate : fs.truncate l = fs.put l (.file []) := by
    rw [truncate]
    split
    · rename_i d hd
      exact absurd hd (hdevice d)
    · rfl
  have hempty : (fs.put l (.file [])).node? l = some (.file []) := by
    rw [node?_put, if_pos ⟨rfl, hne⟩]
  obtain ⟨s, hs⟩ : ∃ s, (fs.put l (.file [])).sinkAt l = s := ⟨_, rfl⟩
  have hsink : s = { limit := fs.largestFile, whenFull := .fail (.system .noSpace) } := by
    rw [← hs, sinkAt, hempty]
    rfl
  have hsave : save t p fs = (s.verdict (bytes t),
      (fs.put l (.file [])).put l (.file (s.after (bytes t)).written)) := by
    rw [save_eq_writeFile, writeFile, create, hl]
    dsimp only
    rw [htruncate, append_eq, store, hempty, hs]
  have hfits : s.Fits (bytes t).length ↔ Room fs.largestFile (bytes t).length := by
    rw [hsink, Sink.Fits, Room]
    simp only [List.length_nil, Nat.zero_add]
  refine ⟨(fs.put l (.file [])).put l (.file (s.after (bytes t)).written), ⟨rfl, fun m hm => ?_⟩,
    fun hroom => ⟨?_, ?_⟩, fun hno => ?_⟩
  · rw [node?_put, if_neg fun h => hm h.1, node?_put, if_neg fun h => hm h.1]
  · rw [hsave, Sink.verdict, if_pos (Sink.fitting_of_fits (hfits.mpr hroom))]
  · rw [node?_put, if_pos ⟨rfl, hne⟩, Sink.after, Sink.fitting_of_fits (hfits.mpr hroom), hsink]
    rfl
  · have hbytes : bytes t ≠ [] := List.length_pos_iff.mp (length_bytes_pos t)
    rw [hsave, Sink.verdict, if_neg fun hall => hno (hfits.mp (Sink.fits_of_fitting hbytes hall)),
      hsink]
    rfl

/-- **What saving comes to**, unless the path leads to a device that keeps nothing. -/
theorem saved_save (t : Tally) (hp : ¬fs.Discards p) :
    Saved t p fs (save t p fs).2 (save t p fs).1 := by
  cases hl : fs.resolve .create p with
  | error why =>
    rw [save_of_error hl]
    exact .notOpened hl rfl
  | ok l =>
    by_cases hfull : fs.node? l = some (.device .full)
    · rw [save_of_full hl hfull]
      exact .notWritten hl (.inl hfull) ⟨rfl, fun _ _ => rfl⟩
    have hdevice (d : Device) : fs.node? l ≠ some (.device d) := by
      intro hd
      cases d with
      | null => exact hp ⟨l, hl, hd⟩
      | full => exact hfull hd
    obtain ⟨fs', hoff, hok, herror⟩ := save_of_open (t := t) hl hdevice
    by_cases hroom : Room fs.largestFile (bytes t).length
    · obtain ⟨hsave, hfile⟩ := hok hroom
      rw [hsave]
      exact .saved hl (resolve_read_of_create hl hoff hfile) hfile hoff
    · rw [herror hroom]
      exact .notWritten hl (.inr hroom) hoff

end Export

end RayTally
