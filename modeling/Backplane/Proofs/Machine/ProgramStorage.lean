import Backplane.Proofs.Machine.Storage

/-!
# Program storage over a run

Program storage shows the images that were loaded into it, one over the other, and nothing else.
`images` collects the images that a run loads successfully, whether they were asked for directly or
in a dialog, and `imageByte` says what a stack of images shows at an offset: the byte of the last
one that is long enough, and zero if none is.  `program_after` says that this is what program
storage holds after any run of a machine, from the moment it was built.

The invariant is `Shows`: program storage is an array of the configured size that shows the images
so far.  Everything but a load keeps program storage as it is (`workingOnly_perform`), and a load
either changes nothing or puts its image on the stack (`Shows.perform_loadProgram`).  A dialog is a
sequence of such requests.

## Loads that fail

`LoadsOrRefuses` goes through the ways a load can end, in the order in which the conditions are
looked at: the name, the file, whether the host lets it be read, and the length.  A load that fails
has changed nothing at all, neither memory nor the host, because the image is read and measured
before its first byte is stored, and program storage of a machine that was built is an array, which
refuses no byte.

An image that is empty can be loaded, and it changes nothing either.
-/

namespace Backplane

namespace Machine

/-! ## Images -/

/-- The image that a request to load a program puts in place, if it succeeds. -/
def loadedImage? (machine : Machine) (host : Host) (name : String) : Option (List UInt8) :=
  match (machine.loadProgram host name).value.1, machine.findProgram host name with
  | .ok _, .ok (_, image) => some image.toList
  | _, _ => none

/-- The images that a direct request loads: one or none. -/
def imagesOfRequest (machine : Machine) (host : Host) : Operation → List (List UInt8)
  | .loadProgram name => (machine.loadedImage? host name).toList
  | _ => []

/-- The images that requests in a row load, first one first. -/
def imagesOfRequests (machine : Machine) (host : Host) : List Operation → List (List UInt8)
  | [] => []
  | operation :: rest =>
    machine.imagesOfRequest host operation ++
      (machine.perform host operation).value.2.1.imagesOfRequests
        (machine.perform host operation).value.2.2 rest

/-- The images that a step loads; a dialog loads those that its input asks for. -/
def imagesOfStep (machine : Machine) (host : Host) : Step → List (List UInt8)
  | .operation .dialog =>
    machine.imagesOfRequests host (Dialog.requests machine.console.line.input)
  | .operation operation => machine.imagesOfRequest host operation
  | .outside _ => []

/-- The images that a run loads, first one first. -/
def images (machine : Machine) (host : Host) : List Step → List (List UInt8)
  | [] => []
  | step :: rest =>
    machine.imagesOfStep host step ++
      (machine.step host step).1.images (machine.step host step).2 rest

/-- What images loaded one over the other show at an offset: the byte of the last one that is
longer than the offset, or zero. -/
def imageByte (images : List (List UInt8)) (offset : Nat) : UInt8 :=
  ((images.reverse.find? fun image => offset < image.length).map (·.getD offset 0)).getD 0

theorem imageByte_append_singleton (images : List (List UInt8)) (image : List UInt8)
    (offset : Nat) :
    imageByte (images ++ [image]) offset =
      if offset < image.length then image.getD offset 0 else imageByte images offset := by
  rw [imageByte, List.reverse_append, List.reverse_singleton, List.singleton_append,
    List.find?_cons]
  by_cases h : offset < image.length
  · rw [if_pos h, decide_eq_true h]
    rfl
  · rw [if_neg h, decide_eq_false h]
    rfl

/-! ## One load -/

/-- Program storage is an array of a size that shows images loaded one over the other.  It is zero
where no image reaches, as it was when the machine was built. -/
def Shows (memory : Memory) (size : Nat) (images : List (List UInt8)) : Prop :=
  ∃ data, memory.program = .array data ∧ data.length = size ∧
    ∀ i < size, data.byte i = imageByte images i

variable {machine : Machine} {host : Host} {size : Nat} {shown : List (List UInt8)}

/-- What loading a program does to a machine whose program storage is an array: it refuses and
changes nothing, or it fills program storage with the image and changes nothing else. -/
theorem loadProgram_cases {data : Content} (hprogram : machine.memory.program = .array data)
    (host : Host) (name : String) :
    (∃ refusal, (machine.loadProgram host name).value = (.error refusal, machine, host)) ∨
      ∃ (image : List UInt8) (filled : Content)
        (size_eq : (Store.array filled).size = machine.memory.program.size),
        machine.loadedImage? host name = some image ∧
        (machine.loadProgram host name).value =
          (.ok image.length,
            { machine with memory := machine.memory.withProgram (.array filled) size_eq }, host) ∧
        ∀ i < data.length, filled.byte i =
          if i < image.length then image.getD i 0 else data.byte i := by
  unfold loadedImage?
  rw [value_loadProgram]
  rcases machine.findProgram host name with refusal | ⟨path, image⟩
  · -- There is no image to load.
    exact .inl ⟨refusal, rfl⟩
  · dsimp only
    rcases Nat.lt_or_ge data.length image.toList.length with h | h
    · -- It is too long, and refused before a byte is stored.
      have htoo : machine.memory.programSize < image.toList.length := by
        rwa [Memory.programSize_eq, hprogram]
      rw [Memory.loadProgram_of_too_large htoo]
      exact .inl ⟨_, rfl⟩
    · -- It fits, and an array takes all of it.
      obtain ⟨filled, hsize, hload, hbyte⟩ := Memory.exists_loadProgram_of_array hprogram host h
      rw [hload]
      refine .inr ⟨image.toList, filled, hsize, rfl, ?_, hbyte⟩
      rw [Content.length_toList]
      rfl

theorem Shows.perform_loadProgram (h : Shows machine.memory size shown) (host : Host)
    (name : String) :
    Shows (machine.perform host (.loadProgram name)).value.2.1.memory size
      (shown ++ machine.imagesOfRequest host (.loadProgram name)) := by
  obtain ⟨data, hprogram, hlength, hbytes⟩ := h
  simp only [perform, Logged.value_bind, Logged.value_pure, imagesOfRequest]
  rcases loadProgram_cases hprogram host name with
    ⟨refusal, hload⟩ | ⟨image, filled, hsize, himage, hload, hbyte⟩
  · have hnone : machine.loadedImage? host name = none := by
      unfold loadedImage?
      rw [hload]
    rw [hload, hnone, Option.toList_none, List.append_nil]
    exact ⟨data, hprogram, hlength, hbytes⟩
  · have hfilled : filled.length = data.length := by
      rw [hprogram] at hsize
      exact hsize
    rw [hload, himage, Option.toList_some]
    refine ⟨filled, rfl, hfilled.trans hlength, ?_⟩
    intro i hi
    rw [hbyte i (hlength ▸ hi), imageByte_append_singleton, hbytes i hi]

/-- What changes nothing but working storage keeps showing the same images. -/
theorem Shows.of_workingOnly {after : Memory} (h : Shows machine.memory size shown)
    (honly : Memory.WorkingOnly machine.memory after) : Shows after size shown := by
  obtain ⟨data, hprogram, hlength, hbytes⟩ := h
  exact ⟨data, honly.program.trans hprogram, hlength, hbytes⟩

/-! ## Runs -/

theorem Shows.performAll (h : Shows machine.memory size shown) (host : Host)
    {operations : List Operation}
    (hrequests : ∀ operation ∈ operations, Dialog.IsRequest operation) :
    Shows (machine.performAll host operations).1.memory size
      (shown ++ machine.imagesOfRequests host operations) := by
  induction operations generalizing machine host shown with
  | nil =>
    rw [imagesOfRequests, List.append_nil]
    exact h
  | cons operation rest ih =>
    rw [imagesOfRequests, ← List.append_assoc]
    have hrest : ∀ other ∈ rest, Dialog.IsRequest other := fun other hmem =>
      hrequests other (List.mem_cons_of_mem _ hmem)
    refine ih ?_ _ hrest
    cases hrequests operation List.mem_cons_self with
    | loadProgram name => exact h.perform_loadProgram host name
    | setFrontPanel value =>
      show Shows _ size (shown ++ [])
      rw [List.append_nil]
      exact h
    | mount number name =>
      show Shows _ size (shown ++ [])
      rw [List.append_nil]
      exact h

theorem Shows.step (h : Shows machine.memory size shown) (host : Host) (step : Step) :
    Shows (machine.step host step).1.memory size (shown ++ machine.imagesOfStep host step) := by
  cases step with
  | outside other =>
    rw [imagesOfStep, List.append_nil]
    exact h
  | operation operation =>
    cases operation with
    | loadProgram name => exact h.perform_loadProgram host name
    | dialog =>
      obtain ⟨said, hdialog⟩ := Dialog.exists_dialog_eq_performAll machine host
      have hrequests : ∀ operation ∈ Dialog.requests machine.console.line.input,
          Dialog.IsRequest operation := fun operation => Dialog.isRequest_of_mem
      have hall := h.performAll host hrequests
      simp only [Machine.step, perform, Logged.value_bind, Logged.value_pure, hdialog]
      exact hall
    | _ =>
      show Shows _ size (shown ++ [])
      rw [List.append_nil]
      exact h.of_workingOnly (workingOnly_perform (by exact id) machine host)

theorem Shows.after (h : Shows machine.memory size shown) (host : Host) (steps : List Step) :
    Shows (machine.after host steps).1.memory size (shown ++ machine.images host steps) := by
  induction steps generalizing machine host shown with
  | nil =>
    rw [images, List.append_nil]
    exact h
  | cons step rest ih =>
    rw [images, ← List.append_assoc]
    exact ih (h.step host step) _

/-- A machine is built with program storage that shows no image. -/
theorem shows_of_build {config : Config} {line : Console.Line} {machine : Machine} {start : Host}
    (h : (build config line host).value = (.ok machine, start)) :
    Shows machine.memory config.programSize [] := by
  obtain ⟨working, memory, -, hlayout, rfl⟩ := exists_layOut_of_build h
  obtain ⟨hprogram, -, -⟩ := Memory.stores_of_layOut hlayout
  refine ⟨.zeros config.programSize, hprogram, rfl, ?_⟩
  intro i _
  simp [Content.byte, Content.zeros, imageByte]

/-! ## Loads that fail and loads that succeed -/

/-- What becomes of a request to load a program: when it fails, with which error, and what it has
changed then and otherwise.  The conditions of the fields are those that the load looks at, in its
order, and they exclude each other. -/
structure LoadsOrRefuses (machine : Machine) (host : Host) (size : Nat) (name : String) : Prop where
  /-- A load that fails, for whatever reason, has changed nothing at all. -/
  unchanged : ∀ refusal, (machine.loadProgram host name).value.1 = .error refusal →
    (machine.loadProgram host name).value.2 = (machine, host)
  /-- The name is no bare name. -/
  invalid : Name.resolve? machine.config.programsDirectory name Name.programExtension = none →
    (machine.loadProgram host name).value.1 = .error (.invalidName name)
  /-- The name does not lead to a file. -/
  missing : ∀ path,
    Name.resolve? machine.config.programsDirectory name Name.programExtension = some path →
      host.isFile path = false →
        (machine.loadProgram host name).value.1 = .error (.notFound path)
  /-- The file is there, and the host refuses to open or to read it. -/
  unreadable : ∀ path file fault,
    Name.resolve? machine.config.programsDirectory name Name.programExtension = some path →
      host.find path = .ok (.regular file) → host.readAll file = .error fault →
        (machine.loadProgram host name).value.1 = .error (.io fault)
  /-- The file is read, and is too long. -/
  tooLong : ∀ path file image,
    Name.resolve? machine.config.programsDirectory name Name.programExtension = some path →
      host.find path = .ok (.regular file) → host.readAll file = .ok image →
        size < image.length →
          (machine.loadProgram host name).value.1 = .error (.programTooLarge image.length size)
  /-- In no other case does a load fail. -/
  loads : ∀ path file image,
    Name.resolve? machine.config.programsDirectory name Name.programExtension = some path →
      host.find path = .ok (.regular file) → host.readAll file = .ok image →
        image.length ≤ size →
          (machine.loadProgram host name).value.1 = .ok image.length
  /-- A load that succeeds answers with the length of its image and changes its bytes alone. -/
  changes : ∀ length, (machine.loadProgram host name).value.1 = .ok length →
    ∃ image program size_eq, machine.loadedImage? host name = some image ∧
      length = image.length ∧
      (machine.loadProgram host name).value.2 =
        ({ machine with memory := machine.memory.withProgram program size_eq }, host) ∧
      ∀ i < size, program.load host i =
        if i < image.length then .ok (image.getD i 0) else machine.memory.program.load host i

/-- Whatever a file holds, loading it looks at its length first. -/
theorem fst_loadProgram_of_readAll {name : String} {path : Path} {file : Nat} {image : Content}
    (hresolve : Name.resolve? machine.config.programsDirectory name Name.programExtension =
      some path) (hfind : host.find path = .ok (.regular file))
    (hread : host.readAll file = .ok image) :
    (machine.loadProgram host name).value.1 =
      (machine.memory.loadProgram host image.toList).1.map fun _ => image.length := by
  simp only [value_loadProgram, findProgram, hresolve, hfind, hread]

theorem loadsOrRefuses {data : Content} (hprogram : machine.memory.program = .array data)
    (host : Host) (name : String) : LoadsOrRefuses machine host data.length name := by
  have hsize : machine.memory.programSize = data.length := by
    rw [Memory.programSize_eq, hprogram]
    rfl
  constructor
  case unchanged =>
    -- Every refusal comes before the first byte is stored.
    intro refusal hrefused
    rcases loadProgram_cases hprogram host name with
      ⟨_, hload⟩ | ⟨image, filled, hsize, -, hload, -⟩
    · rw [hload]
    · rw [hload] at hrefused
      exact absurd hrefused (by simp)
  case invalid =>
    intro hresolve
    simp only [value_loadProgram, findProgram, hresolve]
  case missing =>
    -- What is no regular file is not found, whatever it is.
    intro path hresolve hmissing
    have hfind : machine.findProgram host name = .error (.notFound path) := by
      simp only [findProgram, hresolve]
      match hfind : host.find path with
      | .ok (.regular index) => simp [Host.isFile, hfind] at hmissing
      | .ok .directory | .ok .full | .error _ => rfl
    simp only [value_loadProgram, hfind]
  case unreadable =>
    intro path file fault hresolve hfind hread
    simp only [value_loadProgram, findProgram, hresolve, hfind, hread]
  case tooLong =>
    intro path file image hresolve hfind hread hlong
    rw [fst_loadProgram_of_readAll hresolve hfind hread, Memory.loadProgram_of_too_large
      (by rwa [hsize, Content.length_toList]), hsize, Content.length_toList]
    rfl
  case loads =>
    intro path file image hresolve hfind hread hfits
    -- Program storage is an array, so it takes every byte of an image that fits.
    obtain ⟨filled, _, hload, -⟩ := Memory.exists_loadProgram_of_array hprogram host
      (show image.toList.length ≤ data.length by rwa [Content.length_toList])
    rw [fst_loadProgram_of_readAll hresolve hfind hread, hload]
    rfl
  case changes =>
    intro length hloaded
    rcases loadProgram_cases hprogram host name with
      ⟨_, hload⟩ | ⟨image, filled, hsize, himage, hload, hbyte⟩
    · rw [hload] at hloaded
      exact absurd hloaded (by simp)
    · rw [hload] at hloaded ⊢
      refine ⟨image, .array filled, hsize, himage, (Except.ok.inj hloaded).symm, rfl, ?_⟩
      intro i hi
      rw [hprogram, Store.load, Store.load, hbyte i hi]
      split <;> rfl

/-- After any run of a machine that was built, program storage shows the images that were loaded
since, and nothing else.  A load that is refused then, because of its name, because there is no file
or none that can be read, or because the image is too long, changes nothing at all, and one that
succeeds answers with the length of its image and changes those bytes alone. -/
theorem program_after {config : Config} {line : Console.Line} {machine : Machine} {start : Host}
    (hbuild : (build config line host).value = (.ok machine, start)) {steps : List Step}
    {reached : Machine} {now : Host} (hrun : machine.after start steps = (reached, now)) :
    (∀ i < config.programSize,
      reached.memory.program.load now i = .ok (imageByte (machine.images start steps) i)) ∧
    ∀ name, LoadsOrRefuses reached now config.programSize name := by
  have hshows := (shows_of_build hbuild).after start steps
  rw [hrun, List.nil_append] at hshows
  obtain ⟨data, hprogram, hlength, hbytes⟩ := hshows
  constructor
  · intro i hi
    rw [hprogram, Store.load, hbytes i hi]
  · intro name
    rw [← hlength]
    exact loadsOrRefuses hprogram now name

/-- A configuration with four bytes of each storage. -/
def smallConfig : Config := { programSize := 4, workingSize := 4, programsDirectory := ⟨"P"⟩ }

/-- A host with a program of two bytes, and with another that nobody may open. -/
def programHost : Host where
  entries := [(["P", "A.BIN"], .regular 0), (["P", "B.BIN"], .regular 1), (["P"], .directory)]
  files := #[{ content := .ofBytes #[1, 2] },
    { content := .ofBytes #[3], refusal? := fun _ => some .permissionDenied }]

/-- A machine of that configuration as it is built. -/
def emptyMachine : Machine := small smallConfig {}

/-- The first program is loaded and written over on the bus, and the other is asked for. -/
def loadingSteps : List Step :=
  [.operation (.loadProgram "A"), .operation (.write 0 9), .operation (.loadProgram "B")]

theorem program_after_loading :
    (build smallConfig {} programHost).value = (.ok emptyMachine, programHost) ∧
      emptyMachine.images programHost loadingSteps = [[1, 2]] ∧
      (∀ i < 4,
        (emptyMachine.after programHost loadingSteps).1.memory.program.load
            (emptyMachine.after programHost loadingSteps).2 i =
          .ok (imageByte (emptyMachine.images programHost loadingSteps) i)) ∧
      ((emptyMachine.after programHost loadingSteps).1.loadProgram programHost "B").value =
        (.error (.io .permissionDenied), (emptyMachine.after programHost loadingSteps).1,
          programHost) := by
  have hbuild : (build smallConfig {} programHost).value = (.ok emptyMachine, programHost) := rfl
  have hhost : (emptyMachine.after programHost loadingSteps).2 = programHost := rfl
  have hprograms : (emptyMachine.after programHost loadingSteps).1.config.programsDirectory =
      ⟨"P"⟩ := rfl
  have hrun : emptyMachine.after programHost loadingSteps =
      ((emptyMachine.after programHost loadingSteps).1, programHost) := Prod.ext rfl hhost
  obtain ⟨hshown, hloads⟩ := program_after hbuild hrun
  have hrefused : ((emptyMachine.after programHost loadingSteps).1.loadProgram
      programHost "B").value.1 = .error (.io .permissionDenied) := by
    refine (hloads "B").unreadable ⟨"P/B.BIN"⟩ 1 .permissionDenied ?_ ?_ rfl
    · rw [hprograms]
      decide +kernel
    · decide +kernel
  refine ⟨hbuild, by decide +kernel, ?_, Prod.ext hrefused ((hloads "B").unchanged _ hrefused)⟩
  rw [hhost]
  exact hshown

end Machine

end Backplane
