import FixFirst.Digest.Blake2b
import FixFirst.Disk.Resolve

/-!
# The contents of disks

The contents of a file are told apart by a digest.  A file that cannot be read has a digest of its
own.
-/

namespace FixFirst.Disk

/-- The digest of a file that cannot be read. -/
def missingDigest : String := "missing"

/-- The digest of the contents of a file. -/
def digest (disk : Disk) (text : String) : String :=
  match disk.read? (Path.ofText text) with
  | some contents => Digest.Blake2b.hexDigest contents
  | none => missingDigest

/-- The digests of files, by path. -/
def snapshot (disk : Disk) (files : List String) : Keyed String :=
  Keyed.ofPairs (files.map fun file => (file, disk.digest file))

end FixFirst.Disk
