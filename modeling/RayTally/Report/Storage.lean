import RayTally.Files.Load
import RayTally.Report.Import
import RayTally.Stream.Buffer

/-!
# Exports in files

An export replaces what its file held. It is written through a buffer, so a failure to write shows
when the buffer is flushed, and is reported like any other.

## Main results

* `Export.save_of_error`: if the file cannot be created, nothing changes.
-/

namespace RayTally

/-- **Saves** the export of a tally to a file. -/
def Export.save (t : Tally) (p : Path) (fs : FileSystem) : Except Failure Unit × FileSystem :=
  match fs.create p with
  | (.error e, fs) => (.error e, fs)
  | (.ok l, fs) =>
    let (r, b) :=
      BufferedSink.writeThrough { sink := fs.sinkAt l } ((Export.pieces t).map Utf8.encode)
    (r, fs.store l b.sink)

/-- **Loads** a tally from the export in a file. -/
def Import.load (fs : FileSystem) (p : Path) : Except (LoadError Import.ImportError) Tally :=
  fs.load p Import.readSource

/-- The words for why no tally could be loaded. -/
def Import.loadMessage (e : LoadError Import.ImportError) : String :=
  e.message fun p why => "Invalid statistics in \x27" ++ p.shown ++ "\x27: " ++ why.message

/-- If the file cannot be created, nothing changes. -/
theorem Export.save_of_error {t : Tally} {p : Path} {fs : FileSystem} {e : Failure}
    (h : fs.resolve .create p = .error e) : Export.save t p fs = (.error e, fs) := by
  simp [Export.save, FileSystem.create, h]

end RayTally
