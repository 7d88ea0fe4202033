import Backplane.CommandLine.Startup
import Backplane.Proofs.Machine.Storage
import Backplane.Proofs.Memory.Layout

/-!
# Sizes of storage

The arguments say how large program storage is and whether the reserved page is given up, and
working storage takes what is left.  Two limits are involved.  The command line compares the size
of program storage with one of them before it subtracts, and later the layout of memory compares
the sum of both sizes with another.  They are the same limit, so a start is refused by the first
comparison or not at all, and the difference that the second one sees adds up again.

`fillsMap_of_arguments` says so for every record of arguments, whatever text it was read from:
every size up to the limit leads to a configuration whose storage ends exactly at the limit, no
memory and no machine is refused for its layout then, and no address is left unmapped.  Every
larger size, up to the largest that can be written down, is refused.  The limit is written out in
the statement, as a number for each setting of the reserved page.

## What is not looked at

How a text becomes arguments is not part of this.  A size is a number of 64 bits, whatever was
written for it, and the statement is about all of them.  Opening working storage can still fail, if
it is in a file that the host does not give; that is the one reason left for a machine not to be
built (`FillsMap.builds`).
-/

namespace Backplane.CommandLine

variable {arguments : Arguments}

/-! ## From sizes to a map -/

/-- The storage of a configuration ends at a limit.  Stores of its sizes are laid out, and machines
are built from it as soon as working storage can be opened; and then every address leads to program
storage, to working storage or into the reserved page. -/
structure FillsMap (config : Config) (limit : Nat) : Prop where
  sizes : config.programSize + config.workingSize = limit
  laysOut : ∀ program working : Store, program.size = config.programSize →
    working.size = config.workingSize →
    ∃ memory, Memory.layOut program working config.reservedPage = .ok memory ∧
      memory.Divided config.programSize config.workingSize config.reservedPage ∧
      ∀ address, memory.region address ≠ .unmapped
  builds : ∀ line host failure, (Machine.build config line host).value.1 = .error failure →
    ∃ fault, failure = .refused (.io fault)

theorem fillsMap_of_sizes {config : Config}
    (h : config.programSize + config.workingSize = storageLimit config.reservedPage) :
    FillsMap config (storageLimit config.reservedPage) := by
  refine ⟨h, ?_, ?_⟩
  · -- Sizes that add up to the limit are within it, and leave no address between it and them.
    intro program working hprogram hworking
    have hfits : program.size + working.size ≤ storageLimit config.reservedPage := by
      rw [hprogram, hworking]
      exact Nat.le_of_eq h
    have hdivided : (Memory.ofStores program working config.reservedPage hfits).Divided
        program.size working.size config.reservedPage := Memory.divided _
    rw [hprogram, hworking] at hdivided
    refine ⟨_, Memory.layOut_of_le hfits, hdivided, ?_⟩
    intro address hunmapped
    obtain ⟨habove, hbelow⟩ := (hdivided.unmapped address).1 hunmapped
    omega
  · -- All that is left to go wrong is opening the image of working storage.
    intro line host failure hfailed
    rcases hopen : (Machine.openWorking config host).value with ⟨cause | working, after⟩
    · have hlimit := Memory.storageLimit_le config.reservedPage
      have hblock : addressSpace ≤ Store.blockLimit := by decide
      rw [Machine.build_of_not_openWorking (by omega) hopen] at hfailed
      obtain rfl := Except.error.inj hfailed
      exact Machine.exists_io_of_not_openWorking (by omega) hopen
    · rw [Machine.build_of_openWorking hopen (Machine.size_of_openWorking hopen)
        (Nat.le_of_eq h)] at hfailed
      exact absurd hfailed (by simp)

/-! ## From arguments to sizes -/

/-- Program storage that does not fit is refused. -/
theorem config_of_lt (h : storageLimit arguments.reservedPage < arguments.programSize) :
    arguments.config = .error
      (.storageTooLarge arguments.programSize (storageLimit arguments.reservedPage)) :=
  if_pos h

/-- The configuration that arguments ask for if program storage fits: working storage takes all
that is left. -/
def Arguments.fitted (arguments : Arguments) : Config where
  programSize := arguments.programSize
  workingSize := storageLimit arguments.reservedPage - arguments.programSize
  reservedPage := arguments.reservedPage
  volumesDirectory := arguments.volumesDirectory
  programsDirectory := arguments.programsDirectory
  persistentPath := arguments.persistentPath
  frontPanel := arguments.frontPanel

theorem config_of_le (h : arguments.programSize ≤ storageLimit arguments.reservedPage) :
    arguments.config = .ok arguments.fitted :=
  if_neg (Nat.not_lt.2 h)

theorem sizes_fitted (h : arguments.programSize ≤ storageLimit arguments.reservedPage) :
    arguments.fitted.programSize + arguments.fitted.workingSize =
      storageLimit arguments.fitted.reservedPage :=
  Nat.add_sub_cancel' h

/-- Arguments lead to a configuration exactly if the size of program storage is within the limit,
which is 0xFF00 with the reserved page and 0x10000 without.  What the configuration describes then
fills the map up to this limit, so that each address belongs to program storage, to working storage
or to the reserved page. -/
theorem fillsMap_of_arguments (arguments : Arguments) :
    ((∃ failure, arguments.config = .error failure) ↔
      (if arguments.reservedPage then 0xFF00 else 0x10000) < arguments.programSize) ∧
    ∀ config, arguments.config = .ok config →
      config.programSize = arguments.programSize ∧
        config.reservedPage = arguments.reservedPage ∧
        FillsMap config (if arguments.reservedPage then 0xFF00 else 0x10000) := by
  have hlimit : (if arguments.reservedPage then 0xFF00 else 0x10000) =
      storageLimit arguments.reservedPage := rfl
  rw [hlimit]
  rcases Nat.lt_or_ge (storageLimit arguments.reservedPage) arguments.programSize with hlt | hle
  · -- Too large: the size is refused before anything is subtracted from the limit.
    rw [config_of_lt hlt]
    refine ⟨⟨fun _ => hlt, fun _ => ⟨_, rfl⟩⟩, ?_⟩
    intro config hconfig
    exact absurd hconfig (by simp)
  · -- Otherwise the two sizes add up to the limit.
    rw [config_of_le hle]
    refine ⟨⟨?_, fun hlt => absurd hle (Nat.not_le.2 hlt)⟩, ?_⟩
    · rintro ⟨failure, hfailure⟩
      exact absurd hfailure (by simp)
    · intro config hconfig
      obtain rfl := Except.ok.inj hconfig
      exact ⟨rfl, rfl, fillsMap_of_sizes (sizes_fitted hle)⟩

end Backplane.CommandLine
