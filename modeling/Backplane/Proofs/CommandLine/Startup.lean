import Backplane.Proofs.CommandLine.Logging
import Backplane.Proofs.CommandLine.StorageSizes
import Backplane.Proofs.Disk.Drives

/-!
# Starts that fail and starts that do not

A start looks for six obstacles, one after the other, and between two of them it changes the host:
it creates the log file, opens the file of working storage, and logs all the time.
`Obstacle.Applies` says of each whether it is there on the host as it was at first, and
`outcome_of_apart` says that this is enough: a start fails exactly if one of them is there, and
reports the first.  What lies behind the first obstacle is never touched, so up to the fourth the
file of working storage is as it was.

Without an obstacle the machine is what the arguments ask for (`Starts`).  A disk that cannot be
mounted is no obstacle.  It leaves its note and an empty drive, and the program and the other drive
are what they would have been without it: each of them depends on its own name and its own file.

## Hypotheses

`FilesApart` promises that the log file, the file of working storage and the files that are read are
different files.  A log in the file of the program would write over it before it is loaded.

`ReadsProgram` promises that the host reads the program if it is there.  Whether a file can be
opened or made otherwise is left to the host, and is what the first and the fifth obstacle are
about.

## How the proof goes

For each obstacle there is a lemma that a start which gets that far stops at it (`stops_of_log` to
`stops_of_prepare`), and one that a start without it gets further, with every path that is still to
be read intact (`Intact`).  `stops_of_isFirst` puts the first kind together by the rank of the
obstacle, and `starts_of_none` the second.

An obstacle is a statement about the host before the start, but it is met on a host that the start
has already changed.  `intact_of_apart` is what connects the two: apart from the log file and the
file of working storage, what a path finds is what it found at first.
-/

namespace Backplane.CommandLine

variable {arguments : Arguments} {input : List UInt8} {host : Host} {site : Site}

/-! ## What can stand in the way -/

/-- The program image that arguments name. -/
def programPath (arguments : Arguments) : Path :=
  arguments.programsDirectory.child (arguments.program ++ "." ++ Name.programExtension)

/-- What can stand in the way of a start, in the order in which it is looked for. -/
inductive Obstacle where
  /-- The log file cannot be created. -/
  | log
  /-- Program storage does not fit. -/
  | size
  /-- The name of the program is no bare name. -/
  | name
  /-- There is no such program. -/
  | program
  /-- The file of working storage cannot be opened or made long enough. -/
  | memory
  /-- The program is longer than program storage. -/
  | length
deriving DecidableEq, Repr

/-- How many other obstacles are looked for before. -/
def Obstacle.rank : Obstacle → Nat
  | .log => 0
  | .size => 1
  | .name => 2
  | .program => 3
  | .memory => 4
  | .length => 5

/-- An obstacle is there, as the host's files are before the start. -/
def Obstacle.Applies (arguments : Arguments) (host : Host) : Obstacle → Prop
  | .log => ∃ path fault, arguments.log = some path ∧ host.create path = .error fault
  | .size => storageLimit arguments.reservedPage < arguments.programSize
  | .name => ¬ Name.IsBare arguments.program
  | .program => ¬ ∃ file, host.find (programPath arguments) = .ok (.regular file)
  | .memory => ∃ path fault, arguments.persistentPath = some path ∧
    (Store.openPersistent host path arguments.fitted.workingSize).value.1 = .error fault
  | .length => ∃ file, host.find (programPath arguments) = .ok (.regular file) ∧
    arguments.programSize < (host.content file).length

/-- An obstacle is there, and none that is looked for before. -/
def Obstacle.IsFirst (arguments : Arguments) (host : Host) (obstacle : Obstacle) : Prop :=
  obstacle.Applies arguments host ∧
    ∀ earlier : Obstacle, earlier.rank < obstacle.rank → ¬ earlier.Applies arguments host

/-- What is reported of an obstacle.  Why a file cannot be opened is said of the host's files at
that time, when the log has been started. -/
inductive Obstacle.Reports (arguments : Arguments) (host : Host) : Obstacle → StartupFailure → Prop
  | log {path : Path} {fault : Fault} (asked : arguments.log = some path)
    (refused : host.create path = .error fault) : Reports arguments host .log (.logFile fault)
  | size : Reports arguments host .size
    (.storageTooLarge arguments.programSize (storageLimit arguments.reservedPage))
  | name : Reports arguments host .name (.invalidProgramName arguments.program)
  | program : Reports arguments host .program (.programNotFound (programPath arguments))
  | memory {site : Site} {path : Path} {fault : Fault}
    (logged : createLog arguments host = .ok site) (asked : arguments.persistentPath = some path)
    (refused : (Store.openPersistent (site.add .terminalTaken).host path
      arguments.fitted.workingSize).value.1 = .error fault) :
    Reports arguments host .memory (.notBuilt (.io fault))
  | length {file : Nat} (found : host.find (programPath arguments) = .ok (.regular file)) :
    Reports arguments host .length
      (.notLoaded (.programTooLarge (host.content file).length arguments.programSize))

/-- None of them is a panic. -/
theorem Obstacle.Reports.exitCode {obstacle : Obstacle} {failure : StartupFailure}
    (h : obstacle.Reports arguments host failure) : failure.exitCode = 1 := by
  cases h <;> rfl

/-- Where an obstacle is there, there is a first one. -/
theorem exists_isFirst_of_applies {obstacle : Obstacle} (h : obstacle.Applies arguments host) :
    ∃ first : Obstacle, first.IsFirst arguments host := by
  induction hrank : obstacle.rank using Nat.strongRecOn generalizing obstacle with
  | _ rank ih =>
    by_cases hearlier : ∃ earlier : Obstacle, earlier.rank < obstacle.rank ∧
      earlier.Applies arguments host
    · obtain ⟨earlier, hlt, happlies⟩ := hearlier
      exact ih earlier.rank (hrank ▸ hlt) happlies rfl
    · exact ⟨obstacle, h, fun earlier hlt happlies => hearlier ⟨earlier, hlt, happlies⟩⟩

/-! ## Files of a start -/

/-- The files that a start reads: the program, and the disks. -/
def readPaths (arguments : Arguments) : List Path :=
  (Name.resolve? arguments.programsDirectory arguments.program Name.programExtension).toList ++
    [arguments.firstDisk, arguments.secondDisk].filterMap
      (·.bind (Name.resolve? arguments.volumesDirectory · Name.diskExtension))

/-- The log file, the file of working storage and the files that are read are different files. -/
structure FilesApart (arguments : Arguments) (host : Host) : Prop where
  log : ∀ log, arguments.log = some log →
    ∀ path ∈ arguments.persistentPath.toList ++ readPaths arguments, ¬ host.SameFile log path
  persistent : ∀ store, arguments.persistentPath = some store →
    ∀ path ∈ readPaths arguments, ¬ host.SameFile store path

theorem programPath_mem (h : Name.IsBare arguments.program) :
    programPath arguments ∈ readPaths arguments := by
  have hresolve := Name.resolve?_eq_some_iff.2
    ⟨h, (rfl : programPath arguments = programPath arguments)⟩
  simp [readPaths, hresolve]

/-- Before it is opened, the file of working storage is intact, and so are the files that are
read. -/
theorem intact_of_apart (hsound : host.Sound) (hapart : FilesApart arguments host)
    (hlog : createLog arguments host = .ok site) :
    site.host.Sound ∧
      (∀ store, arguments.persistentPath = some store → site.Intact host store) ∧
        ∀ path ∈ readPaths arguments, site.Intact host path := by
  obtain ⟨hsite, hintact⟩ := intact_of_createLog hsound hlog
  refine ⟨hsite, ?_, ?_⟩
  · intro store hstore
    refine hintact store fun log hasked => ?_
    exact hapart.log log hasked store (List.mem_append_left _ (by simp [hstore]))
  · intro path hpath
    refine hintact path fun log hasked => ?_
    exact hapart.log log hasked path (List.mem_append_right _ hpath)

/-! ## Before the terminal is taken over -/

theorem checkProgram_eq (arguments : Arguments) (host : Host) :
    checkProgram arguments host =
      if storageLimit arguments.reservedPage < arguments.programSize then
        .error (.storageTooLarge arguments.programSize (storageLimit arguments.reservedPage))
      else if ¬ Name.IsBare arguments.program then .error (.invalidProgramName arguments.program)
      else if host.isFile (programPath arguments) then .ok arguments.fitted
      else .error (.programNotFound (programPath arguments)) := by
  unfold checkProgram
  split
  · rename_i hlt
    rw [config_of_lt hlt]
    rfl
  · rename_i hle
    rw [config_of_le (Nat.not_lt.1 hle)]
    by_cases hbare : Name.IsBare arguments.program
    · have hresolve := Name.resolve?_eq_some_iff.2
        ⟨hbare, (rfl : programPath arguments = programPath arguments)⟩
      simp only [bind, Except.bind, Arguments.fitted, hresolve, hbare, not_true, if_false]
    · have hresolve : Name.resolve? arguments.fitted.programsDirectory arguments.program
          Name.programExtension = none := Name.resolve?_eq_none_iff.2 hbare
      simp only [bind, Except.bind, hresolve, hbare, not_false_eq_true, if_true]

/-! ## Working storage and the program -/

/-- Working storage can be an array, whatever is left for it. -/
theorem workingSize_le (arguments : Arguments) :
    arguments.fitted.workingSize ≤ Store.blockLimit := by
  have hlimit := Memory.storageLimit_le arguments.reservedPage
  have hblock : addressSpace ≤ Store.blockLimit := by decide
  exact Nat.le_trans (Nat.sub_le _ _) (Nat.le_trans hlimit hblock)

/-- Program storage that is not refused can be allocated. -/
theorem programSize_le (hfits : arguments.programSize ≤ storageLimit arguments.reservedPage) :
    arguments.fitted.programSize ≤ Store.blockLimit := by
  have hlimit := Memory.storageLimit_le arguments.reservedPage
  have hblock : addressSpace ≤ Store.blockLimit := by decide
  exact Nat.le_trans hfits (Nat.le_trans hlimit hblock)

/-- Where the file of working storage cannot be opened, the start ends. -/
theorem bringUp_of_refused {path : Path} {fault : Fault}
    (hfits : arguments.programSize ≤ storageLimit arguments.reservedPage)
    (hpath : arguments.persistentPath = some path)
    (hrefused : (Store.openPersistent (site.add .terminalTaken).host path
      arguments.fitted.workingSize).value.1 = .error fault) (line : Console.Line) :
    (bringUp arguments arguments.fitted line site).1 = .error (.notBuilt (.io fault)) := by
  have hopen : (Machine.openWorking arguments.fitted (site.add .terminalTaken).host).value =
      (.error (.refused (.io fault)), (Store.openPersistent (site.add .terminalTaken).host path
        arguments.fitted.workingSize).value.2) := by
    rw [Machine.value_openWorking_of_path hpath, hrefused]
    rfl
  have hvalue := Machine.build_of_not_openWorking (programSize_le hfits) hopen line
  unfold bringUp
  rcases hbuild : Machine.build arguments.fitted line (site.add .terminalTaken).host with
    ⟨built, events⟩
  rw [hbuild] at hvalue
  obtain rfl : built = _ := hvalue
  simp only [hbuild]

/-- Memory is laid out as arguments ask for, and an image fills program storage from its start. -/
structure Holds (arguments : Arguments) (image : Content) (memory : Memory) : Prop where
  program : ∃ filled : Content, memory.program = .array filled ∧
    filled.length = arguments.programSize ∧
    ∀ i < arguments.programSize,
      filled.byte i = if i < image.length then image.toList.getD i 0 else 0
  working : memory.working.size = arguments.fitted.workingSize
  reservedPage : memory.reservedPage = arguments.reservedPage

/-- Storage as it is when working storage has been opened, and program storage is still empty. -/
structure Fresh (arguments : Arguments) (memory : Memory) : Prop where
  program : memory.program = .zeroed arguments.programSize
  working : memory.working.size = arguments.fitted.workingSize
  reservedPage : memory.reservedPage = arguments.reservedPage

/-- Once working storage has been opened, what is left is to load the program. -/
theorem exists_bringUp_of_opened {working : Store} {opened : Host}
    (hfits : arguments.programSize ≤ storageLimit arguments.reservedPage)
    (hopen : (Machine.openWorking arguments.fitted (site.add .terminalTaken).host).value =
      (.ok working, opened)) (line : Console.Line) :
    ∃ memory between, Fresh arguments memory ∧
      Site.OnlyLogs ⟨opened, (site.add .terminalTaken).log⟩ between ∧
      bringUp arguments arguments.fitted line site =
        match (Machine.ofMemory arguments.fitted memory line).loadProgram between.host
          arguments.program with
        | ⟨(.error refusal, _, host), events⟩ =>
          (.error (.notLoaded refusal), between.after host events)
        | ⟨(.ok _, machine, host), events⟩ => (.ok machine, between.after host events) := by
  have hsize := Machine.size_of_openWorking hopen
  have hvalue := Machine.build_of_openWorking hopen hsize (Nat.le_of_eq (sizes_fitted hfits)) line
  unfold bringUp
  rcases hbuild : Machine.build arguments.fitted line (site.add .terminalTaken).host with
    ⟨built, events⟩
  rw [hbuild] at hvalue
  obtain rfl : built = _ := hvalue
  refine ⟨.ofStores (.zeroed arguments.programSize) working arguments.reservedPage
    (by rw [Store.size_zeroed, hsize]; exact Nat.le_of_eq (sizes_fitted hfits)), _,
    ⟨rfl, hsize, rfl⟩, Site.onlyLogs_addAll _ events, ?_⟩
  simp only [hbuild]
  rfl

/-- Fresh program storage takes an image that fits. -/
theorem exists_loadProgram_fresh {memory : Memory} (hfresh : Fresh arguments memory) (host : Host)
    {image : Content} (h : image.length ≤ arguments.programSize) :
    ∃ filled, Holds arguments image filled ∧
      memory.loadProgram host image.toList = (.ok (), filled, host) := by
  have hfits : image.toList.length ≤ (Content.zeros arguments.programSize).length := by
    rw [Content.length_toList]
    exact h
  obtain ⟨filled, hsize, hload, hbyte⟩ :=
    Memory.exists_loadProgram_of_array hfresh.program host hfits
  refine ⟨memory.withProgram (.array filled) hsize,
    ⟨⟨filled, rfl, ?_, ?_⟩, hfresh.working, hfresh.reservedPage⟩, hload⟩
  · rw [hfresh.program] at hsize
    exact hsize
  · intro i hi
    rw [hbyte i hi, Content.length_toList]
    simp [Content.byte, Content.zeros]

/-- The program that arguments name can be read by whoever asks for it. -/
def ReadsProgram (arguments : Arguments) (host : Host) : Prop :=
  ∀ file, host.find (programPath arguments) = .ok (.regular file) →
    host.readAll file = .ok (host.content file)

/-- A machine finds a program of its directory where the path of the program is intact. -/
theorem findProgram_of_intact {machine : Machine} {between : Site} {file : Nat}
    (hreads : ReadsProgram arguments host)
    (hconfig : machine.config.programsDirectory = arguments.programsDirectory)
    (hbare : Name.IsBare arguments.program)
    (hfind : host.find (programPath arguments) = .ok (.regular file))
    (hintact : between.Intact host (programPath arguments)) :
    machine.findProgram between.host arguments.program =
      .ok (programPath arguments, host.content file) := by
  have hresolve : Name.resolve? machine.config.programsDirectory arguments.program
      Name.programExtension = some (programPath arguments) :=
    Name.resolve?_eq_some_iff.2 ⟨hbare, by rw [hconfig]; rfl⟩
  have hread := Host.readAll_of_refusal? (hintact.keeps.refusal? _ hfind)
    (hintact.keeps.content file hfind)
  simp only [Machine.findProgram, hresolve, hintact.keeps.find_iff.2 hfind, hread,
    hreads file hfind]

/-- With a program that is found, the start goes on as loading its image does. -/
theorem exists_bringUp_of_found {working : Store} {opened : Host} {file : Nat}
    (hreads : ReadsProgram arguments host)
    (hfits : arguments.programSize ≤ storageLimit arguments.reservedPage)
    (hopen : (Machine.openWorking arguments.fitted (site.add .terminalTaken).host).value =
      (.ok working, opened)) (hbare : Name.IsBare arguments.program)
    (hfind : host.find (programPath arguments) = .ok (.regular file))
    (hintact : Site.Intact host ⟨opened, (site.add .terminalTaken).log⟩ (programPath arguments))
    (line : Console.Line) :
    ∃ final, Site.OnlyLogs ⟨opened, (site.add .terminalTaken).log⟩ final ∧
      (arguments.programSize < (host.content file).length →
        bringUp arguments arguments.fitted line site =
          (.error (.notLoaded
            (.programTooLarge (host.content file).length arguments.programSize)), final)) ∧
      ((host.content file).length ≤ arguments.programSize →
        ∃ memory, Holds arguments (host.content file) memory ∧
          bringUp arguments arguments.fitted line site =
            (.ok (Machine.ofMemory arguments.fitted memory line), final)) := by
  -- The machine is built before the image is read, and reads what was there at the start.
  obtain ⟨memory, between, hfresh, honly, hbring⟩ := exists_bringUp_of_opened hfits hopen line
  have hvalue := Machine.value_loadProgram (Machine.ofMemory arguments.fitted memory line)
    between.host arguments.program
  rw [findProgram_of_intact hreads rfl hbare hfind (hintact.onlyLogs honly)] at hvalue
  rcases hload : (Machine.ofMemory arguments.fitted memory line).loadProgram between.host
    arguments.program with ⟨⟨result, machine, after⟩, events⟩
  rw [hload] at hbring hvalue
  dsimp only at hbring hvalue
  have hcapacity : memory.programSize = arguments.programSize := by
    rw [Memory.programSize_eq, hfresh.program, Store.size_zeroed]
  refine ⟨between.addAll events, honly.trans (Site.onlyLogs_addAll between events), ?_, ?_⟩
  · -- Too long: the image is refused before a byte of it is stored.
    intro hlong
    have hexceeds : memory.programSize < (host.content file).toList.length := by
      rwa [Content.length_toList, hcapacity]
    have hrefused (now : Host) := @Memory.loadProgram_of_too_large _ now _ hexceeds
    simp only [Machine.ofMemory, hrefused, Content.length_toList, hcapacity] at hvalue
    obtain ⟨rfl, rfl, rfl⟩ := hvalue
    exact hbring
  · -- It fits, and fresh program storage takes all of it.
    intro hshort
    obtain ⟨filled, hholds, hfilled⟩ := exists_loadProgram_fresh hfresh between.host hshort
    simp only [Machine.ofMemory, hfilled] at hvalue
    obtain ⟨rfl, rfl, rfl⟩ := hvalue
    exact ⟨filled, hholds, hbring⟩

/-! ## The drives -/

/-- The image that the disk asked for in a drive puts there. -/
def askedImage (arguments : Arguments) (host : Host) (asked : Option String) : Option Path :=
  asked.bind fun name =>
    if Name.IsBare name ∧ host.isFile (Disk.diskPath arguments.volumesDirectory name) then
      some (Disk.diskPath arguments.volumesDirectory name)
    else none

/-- The note on the disk asked for in a drive: one if there is no such disk. -/
def askedNote (arguments : Arguments) (host : Host) (drive : Disk.Drive) : Option String → String
  | none => ""
  | some name =>
    if name = "" then ""
    else if ¬ Name.IsBare name then driveNote drive (.mount (.invalidName name))
    else if host.isFile (Disk.diskPath arguments.volumesDirectory name) then ""
    else driveNote drive (.mount (.notFound (Disk.diskPath arguments.volumesDirectory name)))

theorem withDrive_self {machine : Machine} {drive : Disk.Drive}
    (h : machine.controller.drives.get drive = none) : machine.withDrive drive none = machine := by
  obtain ⟨config, memory, ports, console, led, ⟨volumes, ⟨first, second⟩, latch, status⟩,
    frontPanel⟩ := machine
  cases drive <;> simp_all [Machine.withDrive, Disk.Drives.set, Disk.Drives.get]

/-- A refusal is put in a note. -/
theorem value_mountAsked_some (machine : Machine) (host : Host) (drive : Disk.Drive)
    (name : String) :
    (mountAsked machine host drive (some name)).value =
      match (machine.mount host drive.number name).value with
      | (.ok (), machine) => ("", machine)
      | (.error refusal, machine) => (driveNote drive refusal, machine) := by
  rw [mountAsked, Logged.value_bind]
  rcases (machine.mount host drive.number name).value with ⟨refusal | _, after⟩ <;> rfl

/-- An empty drive gets the disk asked for, or stays empty, and nothing else changes. -/
theorem value_mountAsked {machine : Machine} {drive : Disk.Drive}
    (hvolumes : machine.controller.volumesDirectory = arguments.volumesDirectory)
    (hempty : machine.controller.drives.get drive = none) (host : Host) (asked : Option String) :
    (mountAsked machine host drive asked).value =
      (askedNote arguments host drive asked,
        machine.withDrive drive (askedImage arguments host asked)) := by
  cases asked with
  | none => exact congrArg (Prod.mk "") (withDrive_self hempty).symm
  | some name =>
    -- The drive is one of the two, so the only question is what the name leads to.
    have hsame (other : Disk.Drive) (h : drive.number = other.number) : other = drive := by
      have hnumber := congrArg Disk.Drive.ofNumber? h
      simpa using hnumber.symm
    rw [value_mountAsked_some]
    have hcases := Disk.mounting hvolumes host drive.number name
    generalize (machine.mount host drive.number name).value = ended at hcases
    simp only [askedNote, askedImage, Option.bind_some]
    cases hcases with
    | noDrive high => exact absurd (Disk.number_lt_two drive) (Nat.not_lt.2 high)
    | emptied other numbered empty =>
      -- The empty name is no bare name, but it empties the drive without a complaint.
      have hbare : ¬ Name.IsBare name := fun h => Disk.ne_empty_of_isBare h empty
      obtain rfl := hsame other numbered
      rw [if_pos empty, if_neg fun h => hbare h.1]
    | notBare other numbered nonempty bad => simp [nonempty, bad, withDrive_self hempty]
    | noFile other numbered bare missing =>
      have hfile := mt Disk.isFile_iff.1 missing
      simp [Disk.ne_empty_of_isBare bare, bare, hfile, withDrive_self hempty]
    | mounted other numbered bare there =>
      have hfile := Disk.isFile_iff.2 there
      obtain rfl := hsame other numbered
      simp [Disk.ne_empty_of_isBare bare, bare, hfile]

/-- What becomes of a disk that is asked for depends on the file of its image alone. -/
theorem asked_of_intact {asked : Option String}
    (h : ∀ path ∈ asked.bind (Name.resolve? arguments.volumesDirectory · Name.diskExtension),
      site.Intact host path) (drive : Disk.Drive) :
    askedImage arguments site.host asked = askedImage arguments host asked ∧
      askedNote arguments site.host drive asked = askedNote arguments host drive asked := by
  cases asked with
  | none => exact ⟨rfl, rfl⟩
  | some name =>
    simp only [askedImage, askedNote, Option.bind_some]
    by_cases hbare : Name.IsBare name
    · have hintact := h _ (Disk.resolve?_disk hbare)
      rw [hintact.keeps.isFile]
      exact ⟨rfl, rfl⟩
    · simp [hbare]

theorem exists_mountAsked {machine : Machine} {drive : Disk.Drive} {asked : Option String}
    (hvolumes : machine.controller.volumesDirectory = arguments.volumesDirectory)
    (hempty : machine.controller.drives.get drive = none)
    (h : ∀ path ∈ asked.bind (Name.resolve? arguments.volumesDirectory · Name.diskExtension),
      site.Intact host path) :
    ∃ events, mountAsked machine site.host drive asked =
      ⟨(askedNote arguments host drive asked,
        machine.withDrive drive (askedImage arguments host asked)), events⟩ := by
  have hvalue := value_mountAsked hvolumes hempty site.host asked
  obtain ⟨himage, hnote⟩ := asked_of_intact h drive
  rw [himage, hnote] at hvalue
  exact ⟨_, congrArg (Logged.mk · _) hvalue⟩

/-! ## The start as a whole -/

/-- A start that ends at an obstacle: the obstacle is reported, nothing is sent to the terminal, and
until working storage is opened, its file is left alone. -/
structure Stops (arguments : Arguments) (input : List UInt8) (host : Host) (obstacle : Obstacle) :
    Prop where
  exitCode : (run arguments input host).exitCode = 1
  notes : ∃ failure, obstacle.Reports arguments host failure ∧
    (run arguments input host).notes = failureNote failure
  terminal : (run arguments input host).terminal = #[]
  persistent : obstacle.rank < Obstacle.memory.rank → ∀ path, arguments.persistentPath = some path →
    Host.Keeps host (run arguments input host).host path

/-- A start that nothing stands in the way of: the machine that it prepares has the program in its
program storage, and each drive has the disk that was asked for in it, or is empty and has its
note. -/
structure Starts (arguments : Arguments) (input : List UInt8) (host : Host) : Prop where
  exitCode : (run arguments input host).exitCode = 0
  notes : (run arguments input host).notes =
    askedNote arguments host .first arguments.firstDisk ++
      askedNote arguments host .second arguments.secondDisk
  prepares : ∃ site file memory final, createLog arguments host = .ok site ∧
    host.find (programPath arguments) = .ok (.regular file) ∧
    Holds arguments (host.content file) memory ∧
    prepare arguments { input } site =
      (.ok (((Machine.ofMemory arguments.fitted memory { input }).withDrive .first
          (askedImage arguments host arguments.firstDisk)).withDrive .second
          (askedImage arguments host arguments.secondDisk),
        (run arguments input host).notes), final)

variable {obstacle : Obstacle} {failure : StartupFailure}

theorem run_of_createLog (hlog : createLog arguments host = .ok site) (input : List UInt8) :
    run arguments input host =
      match prepare arguments { input } site with
      | (.error failure, after) =>
        { exitCode := failure.exitCode, notes := failureNote failure, host := after.host }
      | (.ok (machine, notes), after) =>
        { exitCode := 0
          terminal := (configure arguments machine after).1.console.line.output
          notes
          host := (configure arguments machine after).2.host } := by
  rcases hprepare : prepare arguments { input } site with ⟨failure | ⟨machine, notes⟩, after⟩
  · simp only [run, hlog, hprepare]
  · simp only [run, hlog, hprepare]

/-- A start that fails behind the creation of the log file. -/
theorem stops_of_prepare (hlog : createLog arguments host = .ok site)
    (hreports : obstacle.Reports arguments host failure)
    (hfails : (prepare arguments { input } site).1 = .error failure)
    (hkeeps : obstacle.rank < Obstacle.memory.rank → ∀ path, arguments.persistentPath = some path →
      Host.Keeps host (prepare arguments { input } site).2.host path) :
    Stops arguments input host obstacle := by
  have hrun := run_of_createLog hlog input
  rcases hprepare : prepare arguments { input } site with ⟨result, after⟩
  rw [hprepare] at hfails hkeeps hrun
  obtain rfl : result = .error failure := hfails
  refine ⟨?_, ⟨failure, hreports, ?_⟩, ?_, ?_⟩
  · rw [hrun]
    exact hreports.exitCode
  · rw [hrun]
  · rw [hrun]
  · rw [hrun]
    exact hkeeps

/-- The log file that cannot be created is the only thing that a start touches. -/
theorem stops_of_log (h : Obstacle.log.Applies arguments host) :
    Stops arguments input host .log := by
  obtain ⟨path, fault, hpath, hcreate⟩ := h
  have hlog : createLog arguments host = .error (.logFile fault) := by
    simp only [createLog, hpath, hcreate]
  have hrun : run arguments input host =
      { exitCode := 1, notes := failureNote (.logFile fault), host } := by
    simp only [run, hlog]
    rfl
  refine ⟨?_, ⟨_, .log hpath hcreate, ?_⟩, ?_, ?_⟩
  · rw [hrun]
  · rw [hrun]
  · rw [hrun]
  · rw [hrun]
    exact fun _ path _ => .refl host path

theorem exists_createLog (h : ¬ Obstacle.log.Applies arguments host) :
    ∃ site, createLog arguments host = .ok site := by
  unfold createLog
  cases hpath : arguments.log with
  | none => exact ⟨_, rfl⟩
  | some path =>
    cases hcreate : host.create path with
    | error fault => exact absurd ⟨path, fault, hpath, hcreate⟩ h
    | ok created =>
      obtain ⟨node, made⟩ := created
      exact ⟨⟨made, some { node, least := arguments.logLevel }⟩, by simp only [hcreate]⟩

/-- A start that is refused before the terminal is taken over. -/
theorem stops_of_checkProgram (hsound : host.Sound) (hapart : FilesApart arguments host)
    (hlog : createLog arguments host = .ok site)
    (hreports : obstacle.Reports arguments host failure)
    (hcheck : checkProgram arguments site.host = .error failure) :
    Stops arguments input host obstacle := by
  have hprepare : prepare arguments { input } site = (.error failure, site) := by
    simp only [prepare, hcheck]
  refine stops_of_prepare hlog hreports (by rw [hprepare]) fun _ path hpath => ?_
  rw [hprepare]
  exact ((intact_of_apart hsound hapart hlog).2.1 path hpath).keeps

/-- Without an obstacle at the file of working storage, that storage is opened, and the files that
are read are still intact. -/
theorem exists_openWorking (hsound : host.Sound) (hapart : FilesApart arguments host)
    (hlog : createLog arguments host = .ok site) (h : ¬ Obstacle.memory.Applies arguments host) :
    ∃ working opened,
      (Machine.openWorking arguments.fitted (site.add .terminalTaken).host).value =
        (.ok working, opened) ∧
      ∀ path ∈ readPaths arguments,
        Site.Intact host ⟨opened, (site.add .terminalTaken).log⟩ path := by
  obtain ⟨hsite, hstore, hread⟩ := intact_of_apart hsound hapart hlog
  have honly := Site.onlyLogs_add site .terminalTaken
  cases hpath : arguments.persistentPath with
  | none =>
    -- An array: nothing on the host has to do with it.
    refine ⟨.zeroed arguments.fitted.workingSize, (site.add .terminalTaken).host,
      (Machine.openWorking_of_no_path_eq_ok_iff hpath).2 ⟨workingSize_le arguments, rfl, rfl⟩, ?_⟩
    exact fun path hmem => (hread path hmem).onlyLogs honly
  | some path =>
    -- A file: it can be opened now as it could before the log was created.
    have hintact := (hstore path hpath).onlyLogs honly
    have hopens : ¬ ∃ fault, (Store.openPersistent (site.add .terminalTaken).host path
        arguments.fitted.workingSize).value.1 = .error fault := by
      rw [Store.openPersistent_fails_iff_of_keeps hintact.keeps]
      rintro ⟨fault, hfault⟩
      exact h ⟨path, fault, hpath, hfault⟩
    rcases hopened : (Store.openPersistent (site.add .terminalTaken).host path
      arguments.fitted.workingSize).value with ⟨fault | working, opened⟩
    · exact absurd ⟨fault, by rw [hopened]⟩ hopens
    · refine ⟨working, opened, (Machine.openWorking_of_path_eq_ok_iff hpath).2 hopened, ?_⟩
      intro other hmem
      have hother := Site.Intact.openPersistent (honly.agree.sound hsite) hintact
        ((hread other hmem).onlyLogs honly) (hapart.persistent path hpath other hmem)
        arguments.fitted.workingSize
      rwa [hopened] at hother

theorem prepare_of_bringUp {config : Config} {line : Console.Line}
    (hcheck : checkProgram arguments site.host = .ok config)
    (hbring : (bringUp arguments config line site).1 = .error failure) :
    (prepare arguments line site).1 = .error failure := by
  rcases hresult : bringUp arguments config line site with ⟨result, after⟩
  rw [hresult] at hbring
  obtain rfl : result = .error failure := hbring
  simp only [prepare, hcheck, hresult]

/-- Once the program is loaded, the disks that are asked for are mounted, and the start has
succeeded. -/
theorem exists_prepare_of_bringUp {line : Console.Line} {machine : Machine} {after : Site}
    (hcheck : checkProgram arguments site.host = .ok arguments.fitted)
    (hbring : bringUp arguments arguments.fitted line site = (.ok machine, after))
    (hvolumes : machine.controller.volumesDirectory = arguments.volumesDirectory)
    (hempty : machine.controller.drives = {})
    (hintact : ∀ path ∈ readPaths arguments, after.Intact host path) :
    ∃ final, prepare arguments line site =
      (.ok ((machine.withDrive .first (askedImage arguments host arguments.firstDisk)).withDrive
          .second (askedImage arguments host arguments.secondDisk),
        askedNote arguments host .first arguments.firstDisk ++
          askedNote arguments host .second arguments.secondDisk), final) := by
  -- Whatever leads to one of the two disks is among the paths that are read.
  have hfirst (path : Path) (hpath : path ∈ arguments.firstDisk.bind
      (Name.resolve? arguments.volumesDirectory · Name.diskExtension)) :
      path ∈ readPaths arguments := by simp_all [readPaths]
  have hsecond (path : Path) (hpath : path ∈ arguments.secondDisk.bind
      (Name.resolve? arguments.volumesDirectory · Name.diskExtension)) :
      path ∈ readPaths arguments := by simp_all [readPaths]
  have hnone : machine.controller.drives.get .first = none := by
    rw [hempty]
    rfl
  -- Each drive is empty when its disk is mounted, and the second one is no matter of the first.
  obtain ⟨events, hmounted⟩ := exists_mountAsked hvolumes hnone
    fun path hpath => hintact path (hfirst path hpath)
  have hother : (machine.withDrive .first
      (askedImage arguments host arguments.firstDisk)).controller.drives.get .second = none := by
    rw [Disk.get_withDrive, hempty]
    rfl
  have hsame : (machine.withDrive .first (askedImage arguments host
      arguments.firstDisk)).controller.volumesDirectory = arguments.volumesDirectory := hvolumes
  obtain ⟨more, hboth⟩ := exists_mountAsked hsame hother
    fun path hpath => (hintact path (hsecond path hpath)).addAll events
  exact ⟨(after.addAll events).addAll more, by simp only [prepare, hcheck, hbring, hmounted, hboth]⟩

/-! ## Which of the obstacles is reported -/

theorem stops_of_memory (hsound : host.Sound) (hapart : FilesApart arguments host)
    (hlog : createLog arguments host = .ok site)
    (hfits : arguments.programSize ≤ storageLimit arguments.reservedPage)
    (hcheck : checkProgram arguments site.host = .ok arguments.fitted)
    (h : Obstacle.memory.Applies arguments host) : Stops arguments input host .memory := by
  obtain ⟨path, fault, hpath, hfault⟩ := h
  have honly := Site.onlyLogs_add site .terminalTaken
  have hintact := ((intact_of_apart hsound hapart hlog).2.1 path hpath).onlyLogs honly
  obtain ⟨fault, hfault⟩ :=
    (Store.openPersistent_fails_iff_of_keeps hintact.keeps).2 ⟨fault, hfault⟩
  refine stops_of_prepare hlog (.memory hlog hpath hfault) ?_ ?_
  · exact prepare_of_bringUp hcheck (bringUp_of_refused hfits hpath hfault _)
  · intro hrank
    exact absurd hrank (Nat.lt_irrefl _)

/-- With working storage and a program, what is left is whether the program fits. -/
theorem ends_of_opened (hsound : host.Sound) (hapart : FilesApart arguments host)
    (hreads : ReadsProgram arguments host)
    (hlog : createLog arguments host = .ok site)
    (hfits : arguments.programSize ≤ storageLimit arguments.reservedPage)
    (hcheck : checkProgram arguments site.host = .ok arguments.fitted)
    (hbare : Name.IsBare arguments.program) {file : Nat}
    (hfind : host.find (programPath arguments) = .ok (.regular file))
    (hmemory : ¬ Obstacle.memory.Applies arguments host) (input : List UInt8) :
    (arguments.programSize < (host.content file).length → Stops arguments input host .length) ∧
      ((host.content file).length ≤ arguments.programSize → Starts arguments input host) := by
  obtain ⟨working, opened, hopen, hread⟩ := exists_openWorking hsound hapart hlog hmemory
  obtain ⟨after, honly, hlong, hshort⟩ := exists_bringUp_of_found hreads hfits hopen hbare hfind
    (hread _ (programPath_mem hbare)) { input }
  constructor
  · -- Too long: the start stops, and it is the last obstacle that it stops at.
    intro hlength
    refine stops_of_prepare hlog (.length hfind) ?_ ?_
    · exact prepare_of_bringUp hcheck (by rw [hlong hlength])
    · intro hrank
      exact absurd hrank (by decide)
  · -- It fits: the disks are mounted and the dialog is entered.
    intro hlength
    obtain ⟨memory, hholds, hbring⟩ := hshort hlength
    obtain ⟨final, hprepare⟩ := exists_prepare_of_bringUp hcheck hbring rfl rfl
      fun path hpath => (hread path hpath).onlyLogs honly
    have hrun := run_of_createLog hlog input
    rw [hprepare] at hrun
    refine ⟨by rw [hrun], by rw [hrun], site, file, memory, final, hlog, hfind, hholds, ?_⟩
    rw [hprepare, hrun]

/-- Whether there is a program is seen on a site as it was at the start. -/
theorem isFile_programPath (hsound : host.Sound) (hapart : FilesApart arguments host)
    (hlog : createLog arguments host = .ok site) (hbare : Name.IsBare arguments.program) :
    site.host.isFile (programPath arguments) = host.isFile (programPath arguments) :=
  ((intact_of_apart hsound hapart hlog).2.2 _ (programPath_mem hbare)).keeps.isFile

theorem checkProgram_of_found (hsound : host.Sound) (hapart : FilesApart arguments host)
    (hlog : createLog arguments host = .ok site)
    (hfits : arguments.programSize ≤ storageLimit arguments.reservedPage)
    (hbare : Name.IsBare arguments.program)
    (hfind : ∃ file, host.find (programPath arguments) = .ok (.regular file)) :
    checkProgram arguments site.host = .ok arguments.fitted := by
  have hfile := isFile_programPath hsound hapart hlog hbare
  rw [checkProgram_eq, if_neg (Nat.not_lt.2 hfits), if_neg (not_not.2 hbare), hfile,
    if_pos (Disk.isFile_iff.2 hfind)]

theorem stops_of_isFirst (hsound : host.Sound) (hapart : FilesApart arguments host)
    (hreads : ReadsProgram arguments host) (h : obstacle.IsFirst arguments host)
    (input : List UInt8) : Stops arguments input host obstacle := by
  obtain ⟨happlies, hearlier⟩ := h
  by_cases hfirst : obstacle = .log
  · subst hfirst
    exact stops_of_log happlies
  -- What has been looked for before is not there, as far as each case needs it.
  have hfits (h : Obstacle.size.rank < obstacle.rank) :
      arguments.programSize ≤ storageLimit arguments.reservedPage :=
    Nat.not_lt.1 (hearlier .size h)
  have hbare (h : Obstacle.name.rank < obstacle.rank) : Name.IsBare arguments.program :=
    not_not.1 (hearlier .name h)
  have hfind (h : Obstacle.program.rank < obstacle.rank) :
      ∃ file, host.find (programPath arguments) = .ok (.regular file) :=
    not_not.1 (hearlier .program h)
  obtain ⟨site, hlog⟩ := exists_createLog
    (hearlier .log (by cases obstacle <;> simp_all [Obstacle.rank]))
  cases obstacle with
  | log => exact absurd rfl hfirst
  | size =>
    -- The size is compared first, and nothing was looked up for it.
    refine stops_of_checkProgram hsound hapart hlog .size ?_
    rw [checkProgram_eq]
    exact if_pos happlies
  | name =>
    -- The size has passed.
    refine stops_of_checkProgram hsound hapart hlog .name ?_
    rw [checkProgram_eq, if_neg (Nat.not_lt.2 (hfits (by decide)))]
    exact if_pos happlies
  | program =>
    -- So has the name, and what its path finds is no matter of the log.
    have hfile := isFile_programPath hsound hapart hlog (hbare (by decide))
    refine stops_of_checkProgram hsound hapart hlog .program ?_
    rw [checkProgram_eq, if_neg (Nat.not_lt.2 (hfits (by decide))),
      if_neg (not_not.2 (hbare (by decide))), hfile]
    exact if_neg (mt Disk.isFile_iff.1 happlies)
  | memory =>
    -- The program has been found, and working storage is opened next.
    have hcheck := checkProgram_of_found hsound hapart hlog (hfits (by decide)) (hbare (by decide))
      (hfind (by decide))
    exact stops_of_memory hsound hapart hlog (hfits (by decide)) hcheck happlies
  | length =>
    -- Working storage is there, and the image is held against the size.
    have hcheck := checkProgram_of_found hsound hapart hlog (hfits (by decide)) (hbare (by decide))
      (hfind (by decide))
    obtain ⟨file, hfile, hlong⟩ := happlies
    exact (ends_of_opened hsound hapart hreads hlog (hfits (by decide)) hcheck (hbare (by decide))
      hfile (hearlier .memory (by decide)) input).1 hlong

theorem starts_of_none (hsound : host.Sound) (hapart : FilesApart arguments host)
    (hreads : ReadsProgram arguments host)
    (h : ∀ obstacle : Obstacle, ¬ obstacle.Applies arguments host) (input : List UInt8) :
    Starts arguments input host := by
  obtain ⟨site, hlog⟩ := exists_createLog (h .log)
  have hfits : arguments.programSize ≤ storageLimit arguments.reservedPage :=
    Nat.not_lt.1 (h .size)
  have hbare : Name.IsBare arguments.program := not_not.1 (h .name)
  obtain ⟨file, hfind⟩ := not_not.1 (h .program)
  have hcheck := checkProgram_of_found hsound hapart hlog hfits hbare ⟨file, hfind⟩
  refine (ends_of_opened hsound hapart hreads hlog hfits hcheck hbare hfind (h .memory) input).2 ?_
  by_contra hlong
  exact h .length ⟨file, hfind, Nat.not_le.1 hlong⟩

/-- A start fails exactly if there is an obstacle.  The first one is reported, whatever others there
are behind it, and without one the machine is prepared as the arguments ask, whether or not the
disks that they name can be mounted.  The obstacles are about the host as it was before the start,
and the arguments are any that the command line accepts. -/
theorem outcome_of_apart (hsound : host.Sound) (hapart : FilesApart arguments host)
    (hreads : ReadsProgram arguments host) (input : List UInt8) :
    ((run arguments input host).exitCode = 1 ↔
        ∃ obstacle : Obstacle, obstacle.Applies arguments host) ∧
      (∀ obstacle : Obstacle, obstacle.IsFirst arguments host →
        Stops arguments input host obstacle) ∧
      ((∀ obstacle : Obstacle, ¬ obstacle.Applies arguments host) →
        Starts arguments input host) := by
  refine ⟨⟨?_, ?_⟩, fun obstacle h => stops_of_isFirst hsound hapart hreads h input,
    fun h => starts_of_none hsound hapart hreads h input⟩
  · intro hexit
    by_contra hnone
    have hstarts := starts_of_none hsound hapart hreads (not_exists.1 hnone) input
    exact absurd (hexit.symm.trans hstarts.exitCode) (by decide)
  · rintro ⟨obstacle, happlies⟩
    obtain ⟨first, hfirst⟩ := exists_isFirst_of_applies happlies
    exact (stops_of_isFirst hsound hapart hreads hfirst input).exitCode

/-- A host with one program of two bytes and one disk. -/
def startHost : Host :=
  .ofContents [(["CODE80"], .directory), (["CODE80", "P.BIN"], .regular 0),
      (["DISKS80"], .directory), (["DISKS80", "A.DSK"], .regular 1)]
    [.ofBytes #[1, 2], .zeros 128]

/-- Arguments that ask for the disk in the first drive and for a missing one in the second, with a
log and with four bytes of working storage in a file. -/
def startArguments : Arguments where
  program := "P"
  programsDirectory := ⟨"CODE80"⟩
  volumesDirectory := ⟨"DISKS80"⟩
  firstDisk := some "A"
  secondDisk := some "B"
  persistentPath := some ⟨"F"⟩
  programSize := 0xFEFC
  reservedPage := true
  frontPanel := 0
  log := some ⟨"L"⟩
  logLevel := .trace
  dialog := false

theorem outcome_of_apart_missing_disk :
    startHost.Sound ∧ FilesApart startArguments startHost ∧ ReadsProgram startArguments startHost ∧
      (run startArguments [] startHost).exitCode = 0 ∧
      (run startArguments [] startHost).notes =
        driveNote .second (.mount (.notFound ⟨"DISKS80/B.DSK"⟩)) := by
  have hsound : startHost.Sound := by decide
  have hapart : FilesApart startArguments startHost := by
    refine ⟨?_, ?_⟩
    · rintro _ ⟨⟩
      decide
    · rintro _ ⟨⟩
      decide
  have hfound : startHost.find (programPath startArguments) = .ok (.regular 0) := by
    decide +kernel
  have hreads : ReadsProgram startArguments startHost := by
    intro file hfind
    obtain rfl := Node.regular.inj (Except.ok.inj (hfound.symm.trans hfind))
    rfl
  -- There is no obstacle: each is looked for where it would be.
  have hnone : ∀ obstacle : Obstacle, ¬ obstacle.Applies startArguments startHost := by
    intro obstacle happlies
    cases obstacle with
    | log =>
      obtain ⟨path, fault, hpath, hcreate⟩ := happlies
      obtain rfl := Option.some.inj hpath
      have hmade : (startHost.create ⟨"L"⟩).isOk = true := by decide +kernel
      exact absurd hmade (by rw [hcreate]; simp [Except.isOk, Except.toBool])
    | size => exact absurd happlies (Nat.not_lt.2 (by decide))
    | name => exact happlies (by decide)
    | program => exact happlies ⟨0, by decide +kernel⟩
    | memory =>
      obtain ⟨path, fault, hpath, hfault⟩ := happlies
      obtain rfl := Option.some.inj hpath
      have hopened : (Store.openPersistent startHost ⟨"F"⟩
          startArguments.fitted.workingSize).value.1.isOk = true := by decide +kernel
      exact absurd hopened (by rw [hfault]; simp [Except.isOk, Except.toBool])
    | length =>
      obtain ⟨file, hfind, hlong⟩ := happlies
      obtain rfl := Node.regular.inj (Except.ok.inj (hfound.symm.trans hfind))
      exact absurd hlong (Nat.not_lt.2 (by decide +kernel))
  have hstarts := (outcome_of_apart hsound hapart hreads []).2.2 hnone
  refine ⟨hsound, hapart, hreads, hstarts.exitCode, ?_⟩
  rw [hstarts.notes]
  decide

end Backplane.CommandLine
