import Backplane.CommandLine.Startup
import Backplane.Proofs.Store.Persistence

/-!
# What logging leaves alone

A line of the log file changes the bytes of that file and nothing else on the host
(`onlyLogs_add`).  What reads other files is therefore the same with a log and without one:
`Intact host path` says that a path still finds on a site what it found on the host at the start,
and that this is not the log file.  Creating the log file makes a site on which every path to
another file is intact (`intact_of_createLog`), and paths stay intact when lines are added and when
another file is opened as a persistent store.

A log file can refuse its lines, or stop to take them when a disk is full.  A line that is refused
is lost and nothing else happens, so this changes what the file says and not how the start goes.
-/

namespace Backplane.CommandLine

variable {arguments : Arguments} {host : Host} {site before middle after : Site} {path : Path}

/-- A line goes into the log file, and the same file stays open. -/
theorem LogFile.agree_append (log : LogFile) (host : Host) (event : Event) :
    (log.append host event).1.node = log.node ∧
      Host.Agree (fun file => log.node = .regular file) host (log.append host event).2 := by
  unfold append
  split
  · generalize (logLine log.time event).toUTF8.data.toList = line
    dsimp only
    unfold Host.write
    cases host.writeFault? log.node log.written line.length with
    | some fault => exact ⟨rfl, .refl _ _⟩
    | none => exact ⟨rfl, Host.agree_writeInto host log.node _ _⟩
  · exact ⟨rfl, .refl _ _⟩

namespace Site

/-- What the log file is, if one is kept. -/
def logNode? (site : Site) : Option Node := site.log.map (·.node)

/-- The log is kept in this file. -/
def IsLog (site : Site) (file : Nat) : Prop := site.logNode? = some (.regular file)

/-- The same log is kept, and no file has changed but its own. -/
structure OnlyLogs (before after : Site) : Prop where
  node : after.logNode? = before.logNode?
  agree : Host.Agree before.IsLog before.host after.host

theorem OnlyLogs.refl (site : Site) : OnlyLogs site site := ⟨rfl, .refl _ _⟩

theorem OnlyLogs.trans (h : OnlyLogs before middle) (h' : OnlyLogs middle after) :
    OnlyLogs before after := by
  refine ⟨h'.node.trans h.node, h.agree.trans (h'.agree.mono ?_)⟩
  intro file hfile
  exact h.node.symm.trans hfile

theorem onlyLogs_add (site : Site) (event : Event) : OnlyLogs site (site.add event) := by
  obtain ⟨host, log⟩ := site
  cases log with
  | none => exact .refl _
  | some log =>
    obtain ⟨hnode, hagree⟩ := log.agree_append host event
    refine ⟨congrArg some hnode, hagree.mono ?_⟩
    intro file hfile
    exact congrArg some hfile

theorem onlyLogs_addAll (site : Site) (events : List Event) :
    OnlyLogs site (site.addAll events) := by
  induction events generalizing site with
  | nil => exact .refl _
  | cons event events ih => exact (onlyLogs_add site event).trans (ih _)

/-! ## Paths that do not lead to the log file -/

/-- A path finds on a site what it found on a host, and that is not the log file. -/
structure Intact (host : Host) (site : Site) (path : Path) : Prop where
  keeps : Host.Keeps host site.host path
  apart : ∀ file, host.find path = .ok (.regular file) → ¬ site.IsLog file

theorem Intact.onlyLogs (h : Intact host before path) (hlogs : OnlyLogs before after) :
    Intact host after path := by
  refine ⟨h.keeps.trans (.of_agree hlogs.agree ?_), ?_⟩
  · intro file hfile
    exact h.apart file (h.keeps.find_iff.1 hfile)
  · intro file hfile hlog
    exact h.apart file hfile (hlogs.node.symm.trans hlog)

theorem Intact.addAll (h : Intact host site path) (events : List Event) :
    Intact host (site.addAll events) path :=
  h.onlyLogs (onlyLogs_addAll site events)

/-- A path stays intact when a persistent store is opened at another one. -/
theorem Intact.openPersistent (hsound : site.host.Sound) {store : Path}
    (hstore : Intact host site store) (h : Intact host site path)
    (hother : ¬ host.SameFile store path) (size : Nat) :
    Intact host ⟨(Store.openPersistent site.host store size).value.2, site.log⟩ path := by
  refine ⟨h.keeps.trans (Store.keeps_openPersistent hsound ?_ size), h.apart⟩
  rwa [hstore.keeps.sameFile_iff h.keeps]

end Site

/-- The log file that is created is not a file that another path finds. -/
theorem intact_of_createLog (hsound : host.Sound) (h : createLog arguments host = .ok site) :
    site.host.Sound ∧ ∀ path,
      (∀ log, arguments.log = some log → ¬ host.SameFile log path) → site.Intact host path := by
  unfold createLog at h
  cases hlog : arguments.log with
  | none =>
    simp only [hlog, Except.ok.injEq] at h
    subst h
    refine ⟨hsound, fun path _ => ⟨.refl _ _, ?_⟩⟩
    intro file _ hfile
    exact absurd hfile (by simp [Site.IsLog, Site.logNode?])
  | some log =>
    cases hcreate : host.create log with
    | error fault => exact absurd h (by simp [hlog, hcreate])
    | ok created =>
      obtain ⟨node, made⟩ := created
      simp only [hlog, hcreate, Except.ok.injEq] at h
      subst h
      obtain ⟨hmade, hkeeps⟩ := Host.keeps_create hsound hcreate
      refine ⟨hmade, fun path hpath => ?_⟩
      obtain ⟨hpath, hnode⟩ := hkeeps path (hpath log rfl)
      refine ⟨hpath, ?_⟩
      intro file hfile hlogs
      exact hnode file hfile (Option.some.inj hlogs)

end Backplane.CommandLine
