import Chip8.Error
import Chip8.Path

/-! A directory of files, in the order of their names, without directories inside. -/

namespace Chip8

structure Directory where
  files : List (String × List UInt8)

namespace Directory

def empty : Directory := ⟨[]⟩

/-- Puts a file into its place, or in place of the one with its name. -/
def insert (name : String) (contents : List UInt8) :
    List (String × List UInt8) → List (String × List UInt8)
  | [] => [(name, contents)]
  | (other, old) :: files =>
    if name = other then (name, contents) :: files
    else if name < other then (name, contents) :: (other, old) :: files
    else (other, old) :: insert name contents files

def write (d : Directory) (name : String) (contents : List UInt8) : Directory :=
  ⟨insert name contents d.files⟩

/-- Writes a file, if a file can have its name. -/
def save (d : Directory) (name : String) (contents : List UInt8) : Except IoCause Directory :=
  if Path.holdsZero name then .error .zeroInName
  else if Path.maxNameBytes < name.utf8ByteSize then .error (.system .nameTooLong)
  else .ok (d.write name contents)

end Directory

end Chip8
