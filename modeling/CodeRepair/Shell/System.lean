import CodeRepair.FileSystem.Basic

/-!
# The machine

Every machine has some directories, devices and programs.  The programs are all in one directory, to
which other names lead.
-/

namespace CodeRepair.Shell

/-- The directories of the machine. -/
def systemDirectories : List Location :=
  (["boot", "dev", "etc", "go", "home", "media", "mnt", "opt", "proc", "root", "run", "srv", "sys",
    "tmp", "usr", "var"].map fun name ↦ [name.toList]) ++
  [["usr".toList, "bin".toList], ["usr".toList, "sbin".toList], ["usr".toList, "lib".toList],
    ["usr".toList, "local".toList], ["usr".toList, "local".toList, "bin".toList]]

/-- The short names of directories, with what they lead to. -/
def systemLinks : List (Location × Path) :=
  [("bin", "usr/bin"), ("sbin", "usr/sbin"), ("lib", "usr/lib"), ("lib64", "usr/lib64")].map
    fun entry ↦ ([entry.1.toList], entry.2.toList)

/-- The devices of the machine. -/
def devices : List (String × Device) :=
  [("null", .null), ("full", .full), ("zero", .zero), ("random", .zero), ("urandom", .zero),
    ("tty", .terminal)]

/-- The directory of the programs. -/
def programDirectory : Location := ["usr".toList, "bin".toList]

/-- A file system with nothing but the machine's own files, among them programs of the given names. -/
def machine (programs : List Text) : FileSystem :=
  { nodes := systemDirectories.map (fun location ↦ (location, .directory)) ++
      systemLinks.map (fun entry ↦ (entry.1, .link entry.2)) ++
      devices.map (fun entry ↦ (["dev".toList, entry.1.toList], .device entry.2)) ++
      [(["etc".toList, "hostname".toList], .file [0x68, 0x6F, 0x73, 0x74, 0x0A]),
        (["etc".toList, "passwd".toList], .file (("root:x:0:0:root:/root:/bin/bash\n".toList).map
          fun c ↦ UInt8.ofNat c.toNat))] ++
      programs.map fun name ↦ (programDirectory ++ [name], .program name) }

end CodeRepair.Shell
