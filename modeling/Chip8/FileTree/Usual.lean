import Chip8.Directory
import Chip8.FileTree.Basic

/-! The tree that a program finds around its own directory: the folders, links and devices that
every system has, and nothing that differs from one to the next. It stands in for the file system,
with the one file that a command is to read. -/

namespace Chip8.FileTree

def usualFolders : List String :=
  ["/boot", "/dev", "/dev/pts", "/dev/shm", "/etc", "/home", "/media", "/mnt", "/opt", "/proc",
    "/proc/1", "/proc/self", "/proc/self/fd", "/proc/self/fdinfo", "/proc/self/net",
    "/proc/self/ns", "/proc/self/task", "/proc/sys", "/proc/sys/fs", "/proc/sys/kernel",
    "/proc/sys/vm", "/root", "/run", "/run/lock", "/srv", "/sys", "/sys/block", "/sys/bus",
    "/sys/class", "/sys/dev", "/sys/devices", "/sys/firmware", "/sys/fs", "/sys/kernel",
    "/sys/module", "/tmp", "/usr", "/usr/bin", "/usr/games", "/usr/include", "/usr/lib",
    "/usr/lib64", "/usr/libexec", "/usr/local", "/usr/local/bin", "/usr/local/etc",
    "/usr/local/include", "/usr/local/lib", "/usr/local/sbin", "/usr/local/share", "/usr/sbin",
    "/usr/share", "/usr/share/doc", "/usr/src", "/var", "/var/backups", "/var/cache", "/var/lib",
    "/var/local", "/var/log", "/var/mail", "/var/opt", "/var/spool", "/var/tmp"]

def usualLinks : List (String × String) :=
  [("/bin", "/usr/bin"), ("/sbin", "/usr/sbin"), ("/lib", "/usr/lib"), ("/lib64", "/usr/lib64"),
    ("/dev/fd", "/proc/self/fd"), ("/proc/net", "/proc/self/net"), ("/proc/self/root", "/"),
    ("/var/lock", "/run/lock"), ("/var/run", "/run")]

/-- Devices with nothing to read: the null device, and the input of a program that is given none. -/
def emptyDevices : List String := ["/dev/null", "/dev/stdin", "/proc/self/fd/0"]

/-- The folders that the kernel makes up. -/
def kernelFolders : List String := ["/proc", "/sys"]

/-- The tree around a directory at a place, where paths start. -/
def usual (start : Location) (d : Directory) : FileTree where
  start := start
  folders :=
    (List.range start.length).map (fun n => start.take (n + 1)) ++
      usualFolders.map Location.ofPath
  links :=
    (Location.ofPath "/proc/self/cwd", start) ::
      usualLinks.map fun (link, folder) => (Location.ofPath link, Location.ofPath folder)
  files :=
    d.files.map (fun (name, contents) => (start ++ [name], contents)) ++
      emptyDevices.map fun device => (Location.ofPath device, [])
  unlimited := kernelFolders.map Location.ofPath

end Chip8.FileTree
