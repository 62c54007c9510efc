import Overseer.Files.Change
import Overseer.Machine.Program

/-!
# The standard file tree

What is there before anything is done: the programs of the system, the devices, a few files
that programs look at, and a folder to work in.
-/

namespace Overseer.FileTree

/-- Makes a folder, unless it is there. -/
def withFolder (tree : FileTree) (path : Octets) (mode : Nat) : FileTree :=
  match tree.makeFolder root path mode with
  | .ok (tree, _) => tree
  | .error _ => tree

/-- Makes a file with a content. -/
def withFile (tree : FileTree) (path content : Octets) (mode : Nat) : FileTree :=
  ((tree.write root path content.toBytes mode).toOption).getD tree

def withLink (tree : FileTree) (path target : Octets) : FileTree :=
  ((tree.makeLink root path target).toOption).getD tree

def withDevice (tree : FileTree) (path : Octets) (device : Device) : FileTree :=
  match tree.slot root path with
  | .error _ => tree
  | .ok slot =>
    match tree.make slot (.device device) 0o666 with
    | .ok (tree, _) => tree
    | .error _ => tree

def folderPaths : List Octets :=
  ["/boot", "/dev", "/dev/shm", "/etc", "/home", "/media", "/mnt", "/opt", "/proc", "/root", "/run",
   "/srv", "/sys", "/usr", "/usr/bin", "/usr/lib", "/usr/local", "/usr/local/bin", "/usr/sbin",
   "/usr/share", "/var", "/var/log", "/var/tmp"]

def links : List (Octets × Octets) :=
  [("/bin", "usr/bin"), ("/sbin", "usr/sbin"), ("/lib", "usr/lib"), ("/dev/fd", "/proc/self/fd")]

def devices : List (Octets × Device) :=
  [("/dev/null", .void), ("/dev/zero", .zeros), ("/dev/full", .full), ("/dev/random", .noise),
   ("/dev/urandom", .noise), ("/dev/tty", .terminal), ("/dev/stdin", .descriptor 0),
   ("/dev/stdout", .descriptor 1), ("/dev/stderr", .descriptor 2)]

/-- The numbers under which a process can name what it has open. -/
def descriptorNames : List Nat := List.range 10

def files : List (Octets × Octets) :=
  [("/etc/passwd", String.join
    ["root:x:0:0:root:/root:/bin/bash\n", "daemon:x:1:1:daemon:/usr/sbin:/usr/sbin/nologin\n",
     "bin:x:2:2:bin:/bin:/usr/sbin/nologin\n", "sys:x:3:3:sys:/dev:/usr/sbin/nologin\n",
     "nobody:x:65534:65534:nobody:/nonexistent:/usr/sbin/nologin\n"]),
   ("/etc/group", "root:x:0:\ndaemon:x:1:\nbin:x:2:\nsys:x:3:\nnogroup:x:65534:\n"),
   ("/etc/hostname", "localhost\n"),
   ("/etc/hosts", "127.0.0.1\tlocalhost\n"),
   ("/etc/shells", "/bin/sh\n/bin/bash\n")]

/-- A tree with the given programs. -/
def standard (programs : List Octets) : FileTree :=
  let tree := folderPaths.foldl (fun tree path => tree.withFolder path 0o755) ({} : FileTree)
  let tree := (tree.withFolder "/tmp" 0o1777).withFolder "/proc/self" 0o555
  let tree := tree.withFolder "/proc/self/fd" 0o500
  let tree := links.foldl (fun tree (path, target) => tree.withLink path target) tree
  let tree := devices.foldl (fun tree (path, device) => tree.withDevice path device) tree
  let tree := descriptorNames.foldl (fun tree number =>
    tree.withDevice ("/proc/self/fd/" ++ Nat.repr number) (.descriptor number)) tree
  let tree := files.foldl (fun tree (path, content) => tree.withFile path content 0o644) tree
  programs.foldl (fun tree name =>
    tree.withFile ("/usr/bin/" ++ name) (Image.mark ++ name ++ "\n") 0o755) tree

/-- The folder in which the command lines of tasks are carried out. -/
def workPath : Octets := "/tmp/task"

/-- A standard tree with an empty folder to work in, and the number of that folder. -/
def withWorkFolder (programs : List Octets) : FileTree × Nat :=
  let tree := (standard programs).withFolder workPath 0o755
  (tree, ((tree.find root workPath true).toOption).getD root)

end Overseer.FileTree
