import RayTally.Collector
import RayTally.Proofs.Files.Saving
import RayTally.Proofs.Logging

/-!
# The end of a collector

`Collector.cleanup` does four things one after the other: it logs what is inconsistent, prints the
summary, saves the export and logs how that went. Any of them can meet with trouble, and each
changes the host under the next. This module says what the host has come to in the end, for every
host and every collector that is active.

## Main results

* `Summary.print_eq`: before the summary is printed each imbalance is logged.
* `Export.saveLogged_eq`: after saving its outcome is logged.
* `Collector.concluded_conclude`: what is done one after the other if the collector was enabled.
* `Collector.cleanup_of_active`: the end of a collector that is active.
-/

namespace RayTally

open FileSystem

/-! ### The steps of the end -/

/-- The host with a console and files that have taken something. -/
def Host.withOutput (h : Host) (console : Sink) (files : FileSystem) : Host :=
  { h with console, files }

/-- The **warnings** about a tally: one for each category whose outcomes do not add up to its
total. -/
def Tally.warnings (t : Tally) : List Record :=
  (([.rayBox, .rayTriangle, .traversal, .ray] : List Category).filter fun k =>
    (t.get k.first).toNat + (t.get k.second).toNat ≠ (t.get k.total).toNat).map fun k =>
      .ofLibrary .warn ("Inconsistent counters: " ++ t.imbalanceText k)

/-- What is inconsistent is logged. -/
theorem Tally.logIssues_eq (t : Tally) (h : Host) : t.logIssues h = h.logAll t.warnings := by
  rw [logIssues, issues, List.foldl_map, Host.logAll, warnings, List.foldl_map]
  rfl

/-- **Printing**: the warnings are logged, and then the console takes the summary. -/
theorem Summary.print_eq {h : Host} (hc : h.console.TakesAll) (lead : String) (t : Tally) :
    ∃ console : Sink,
      Summary.print lead t h =
        (h.logAll t.warnings).withOutput console (h.logAll t.warnings).files ∧
      console.written = (h.logAll t.warnings).console.written ++ Summary.bytes lead t := by
  obtain ⟨console, hwrite, hwritten, -⟩ :=
    (Host.takesAll_logAll hc t.warnings).writePieces ((pieces lead t).map Utf8.encode)
  refine ⟨console, ?_, by rw [hwritten, bytes_eq]⟩
  rw [print, t.logIssues_eq]
  simp only [write, hwrite]
  rfl

/-- The **record of an outcome** of saving. -/
def Export.record (p : Path) : Except Failure Unit → Record
  | .ok () => .ofLibrary .info ("Statistics saved to " ++ p.shown)
  | .error why =>
    .ofLibrary .error ("Cannot write statistics to \x27" ++ p.shown ++ "\x27: " ++ why.message)

/-- **Saving**: the files change, and then the outcome is logged. -/
theorem Export.saveLogged_eq (t : Tally) (p : Path) (h : Host) :
    Export.saveLogged t p h =
      (h.withOutput h.console (Export.save t p h.files).2).log
        (Export.record p (Export.save t p h.files).1) := by
  rw [saveLogged, saveOn]
  cases Export.save t p h.files with
  | mk r files => cases r <;> rfl

namespace Collector

variable {c : Collector} {h : Host}

/-- **What an enabled collector concludes with**, in this order: the warnings are logged, the
console takes the summary, the files come to what saving comes to, and the outcome of that is
logged. -/
theorem conclude_eq (hconsole : h.console.TakesAll)
    (hdiscards : ¬h.files.Discards c.settings.resolvedOutputPath) :
    ∃ (console : Sink) (files : FileSystem) (outcome : Except Failure Unit),
      c.conclude h = ((h.logAll c.tally.warnings).withOutput console files).log
        (Export.record c.settings.resolvedOutputPath outcome) ∧
      console.written =
        (h.logAll c.tally.warnings).console.written ++ Summary.bytes "Final " c.tally ∧
      Export.Saved c.tally c.settings.resolvedOutputPath (h.logAll c.tally.warnings).files files
        outcome := by
  obtain ⟨console, hprint, hwritten⟩ := Summary.print_eq hconsole "Final " c.tally
  have hsame := Host.sameTree_logAll h c.tally.warnings
  have hdiscards' : ¬(h.logAll c.tally.warnings).files.Discards c.settings.resolvedOutputPath := by
    rintro ⟨l, hl, hnull⟩
    have hnode (content : Bytes) : Node.device .null ≠ .file content := nofun
    rw [hsame.resolve_eq] at hl
    exact hdiscards ⟨l, hl, (hsame.node?_eq_some_iff hnode).mp hnull⟩
  refine ⟨console, _, _, ?_, hwritten, Export.saved_save c.tally hdiscards'⟩
  rw [conclude, save, print, hprint, Export.saveLogged_eq]
  rfl

/-- **What an enabled collector comes to at its end**, if its export goes to a path: the warnings
are logged, the console has taken the summary, the files have come to what saving comes to, and the
outcome of that is logged, in this order. So a logger of the host's own has exactly these records in
the end, and a file that was saved holds the export in the end unless the logger writes to it. -/
structure Concluded (c : Collector) (h : Host) (p : Path) (console : Sink) (files : FileSystem)
    (outcome : Except Failure Unit) (h' : Host) : Prop where
  host : h' = ((h.logAll c.tally.warnings).withOutput console files).log (Export.record p outcome)
  shown : console.written =
    (h.logAll c.tally.warnings).console.written ++ Summary.bytes "Final " c.tally
  saved : Export.Saved c.tally p (h.logAll c.tally.warnings).files files outcome
  warned : ∀ records, h.logger = .collecting records →
    h.logAll c.tally.warnings = { h with logger := .collecting (records ++ c.tally.warnings) }
  collected : ∀ records, h.logger = .collecting records →
    h' = ⟨files, console, .collecting (records ++ c.tally.warnings ++ [Export.record p outcome]),
      h.stamp⟩
  readFile : outcome = .ok () → (∀ l, h.WritesTo l → h.files.resolve .create p ≠ .ok l) →
    h'.files.readFile p = .ok (Export.bytes c.tally)

/-- **The end of a collector** whose export goes to a path. It is terminated, and nothing else of it
changes. If it was disabled nothing else happens at all. -/
structure Ends (c : Collector) (h : Host) (p : Path) : Prop where
  terminated : (c.cleanup h).1 = { c with phase := .terminated }
  disabled : c.gate.isEnabled = false → (c.cleanup h).2 = h
  enabled : c.gate.isEnabled = true → h.console.TakesAll → ¬h.files.Discards p →
    ∃ console files outcome, c.Concluded h p console files outcome (c.cleanup h).2

/-- **What is done at the end** of an enabled collector brings it there. -/
theorem concluded_conclude (hconsole : h.console.TakesAll)
    (hdiscards : ¬h.files.Discards c.settings.resolvedOutputPath) :
    ∃ console files outcome,
      c.Concluded h c.settings.resolvedOutputPath console files outcome (c.conclude h) := by
  obtain ⟨console, files, outcome, hend, hwritten, hsaved⟩ := conclude_eq hconsole hdiscards
  have hwarned (records : List Record) (hlogger : h.logger = .collecting records) :=
    Host.logAll_of_collecting hlogger c.tally.warnings
  refine ⟨console, files, outcome, hend, hwritten, hsaved, hwarned, fun records hlogger => ?_,
    fun hok hwrites => ?_⟩
  · rw [hend, hwarned records hlogger]
    rfl
  · subst hok
    rw [hend, Host.readFile_log]
    · exact hsaved.readFile_eq
    · intro l hl hread
      cases hsaved with
      | saved hcreate hfound _ _ =>
        obtain rfl := Except.ok.inj (hfound.symm.trans hread)
        rw [(Host.sameTree_logAll h c.tally.warnings).resolve_eq] at hcreate
        exact hwrites _ ((Host.writesTo_logAll c.tally.warnings).mp hl) hcreate

/-- **The end of a collector that is active**, on any host. Its export goes to the path of its
settings, or to `ray_intersection_stats.csv` if these have none. -/
theorem cleanup_of_active (hc : c.phase = .active) :
    c.Ends h (c.settings.outputPath.getD (.ofString "ray_intersection_stats.csv")) := by
  have hcleanup : c.cleanup h =
      ({ c with phase := .terminated }, if c.gate.isEnabled then c.conclude h else h) := by
    rw [cleanup, if_neg (fun hne => hne hc)]
  refine ⟨by rw [hcleanup], fun hoff => ?_, fun hon hconsole hdiscards => ?_⟩
  · rw [hcleanup, hoff]
    rfl
  · rw [hcleanup, if_pos hon]
    exact concluded_conclude hconsole hdiscards

/-- A collector that counted a hit without its test, and has no path of its own for its export. -/
def unbalanced : Collector :=
  (Collector.new.started ⟨true, none⟩).update (.increment .boxHits)

/-- A host where the default file is a link to a file that is not there yet. -/
def linked : Host where
  files := (FileSystem.initial (.ofString "/work")).plant (.ofString "ray_intersection_stats.csv")
    (.link (.ofString "stats.csv"))
  console := {}
  logger := .collecting []
  stamp := ⟨"", "", ""⟩

/-- The hit is warned of, the summary printed, and the export saved where the link leads. -/
theorem cleanup_of_active_linked :
    unbalanced.phase = .active ∧ unbalanced.gate.isEnabled = true ∧ linked.console.TakesAll ∧
      ¬linked.files.Discards (.ofString "ray_intersection_stats.csv") ∧
      (unbalanced.cleanup linked).2.console.written = Summary.bytes "Final " unbalanced.tally ∧
      (unbalanced.cleanup linked).2.logger = .collecting
        [.ofLibrary .warn ("Inconsistent counters: Ray-Box: ray_box_hits (1) + " ++
            "ray_box_misses (0) != ray_box_tests_total (0)"),
          .ofLibrary .info "Statistics saved to ray_intersection_stats.csv"] ∧
      (unbalanced.cleanup linked).2.files.node? [Utf8.ofString "work", Utf8.ofString "stats.csv"] =
        some (.file (Export.bytes unbalanced.tally)) := by
  have hpath : linked.files.resolve .create (.ofString "ray_intersection_stats.csv") =
      .ok [Utf8.ofString "work", Utf8.ofString "stats.csv"] := rfl
  have hmissing : linked.files.node? [Utf8.ofString "work", Utf8.ofString "stats.csv"] = none := rfl
  have hwarnings : unbalanced.tally.warnings =
      [.ofLibrary .warn ("Inconsistent counters: Ray-Box: ray_box_hits (1) + " ++
        "ray_box_misses (0) != ray_box_tests_total (0)")] := by decide +kernel
  have hshown : Path.shown (.ofString "ray_intersection_stats.csv") =
      "ray_intersection_stats.csv" := by
    decide +kernel
  have htakes : linked.console.TakesAll := ⟨rfl, nofun⟩
  have hdiscards : ¬linked.files.Discards (.ofString "ray_intersection_stats.csv") := by
    rintro ⟨l, hl, hnull⟩
    rw [hpath] at hl
    cases hl
    rw [hmissing] at hnull
    cases hnull
  have hends := cleanup_of_active (c := unbalanced) (h := linked) rfl
  obtain ⟨console, files, outcome, hend⟩ := hends.enabled rfl htakes hdiscards
  have hwritten := hend.shown
  have hsaved := hend.saved
  rw [hend.warned [] rfl] at hwritten hsaved
  rw [hend.collected [] rfl, hwarnings]
  refine ⟨rfl, rfl, htakes, hdiscards, hwritten.trans (List.nil_append _), ?_⟩
  have hdefault : unbalanced.settings.outputPath.getD (.ofString "ray_intersection_stats.csv") =
      .ofString "ray_intersection_stats.csv" := rfl
  rw [hdefault] at hsaved ⊢
  cases hsaved with
  | saved hl _ hfile _ =>
    rw [Export.record, hshown]
    rw [hpath] at hl
    cases hl
    exact ⟨rfl, hfile⟩
  | notOpened hl _ =>
    rw [hpath] at hl
    cases hl
  | notWritten hl hroom _ =>
    rw [hpath] at hl
    cases hl
    rcases hroom with hfull | hroom
    · rw [hmissing] at hfull
      cases hfull
    · exact absurd (fun k hk => nomatch hk) hroom

end Collector

end RayTally
