import PolicyReplay.Files.Path
import PolicyReplay.Text.Utf8

/-!
# What every system holds

The folders, programs and devices that are there before any file is made. Work is done in a folder
of its own among the temporary files.
-/

namespace PolicyReplay.Files

/-- A file that stands for something else than octets kept on a disk. -/
inductive Device where
  /-- Swallows what is written and has nothing to read. -/
  | null
  /-- Swallows what is written and gives zeros without end. -/
  | zero
  /-- Has no room for what is written and gives zeros without end. -/
  | full
  deriving DecidableEq, Repr

/-- What stands at a place. -/
inductive Node where
  | file (content : Bytes)
  | folder
  | link (target : String)
  | program (name : String)
  | device (device : Device)
  deriving DecidableEq, Repr

/-- The names from the root to a place. -/
abbrev Place := List String

/-- The folder in which work is done. -/
def workplace : Place := ["tmp", "workplace"]

/-- The folders of a system. -/
def systemFolders : List Place := [
  [], ["boot"], ["dev"], ["etc"], ["home"], ["media"], ["mnt"], ["opt"], ["proc"], ["root"],
  ["run"], ["srv"], ["sys"], ["tmp"], ["usr"], ["usr", "bin"], ["usr", "lib"], ["usr", "lib64"],
  ["usr", "local"], ["usr", "local", "bin"], ["usr", "local", "sbin"], ["usr", "sbin"],
  ["usr", "share"], ["var"], ["var", "tmp"], workplace]

/-- The links of a system. -/
def systemLinks : List (Place × String) := [
  (["bin"], "usr/bin"), (["sbin"], "usr/sbin"), (["lib"], "usr/lib"), (["lib64"], "usr/lib64")]

/-- The devices of a system. -/
def systemDevices : List (Place × Device) := [
  (["dev", "null"], .null), (["dev", "zero"], .zero), (["dev", "full"], .full)]

/-- The programs of a system, all in one folder. -/
def systemPrograms : List String := [
  "[", "arch", "awk", "b2sum", "base32", "base64", "basename", "basenc", "bash", "cat", "chgrp",
  "chmod", "chown", "chrt", "cksum", "clear", "cmp", "comm", "cp", "csplit", "cut", "dash", "date",
  "dd", "df", "diff", "diff3", "dir", "dircolors", "dirname", "dmesg", "du", "echo", "egrep", "env",
  "expand", "expr", "factor", "fallocate", "false", "fgrep", "find", "flock", "fmt", "fold",
  "getconf", "getent", "getopt", "grep", "groups", "gunzip", "gzip", "head", "hostid", "hostname",
  "iconv", "id", "install", "ionice", "join", "ldd", "link", "ln", "locale", "logger", "login",
  "logname", "ls", "lsblk", "lscpu", "mawk", "mcookie", "md5sum", "mkdir", "mkfifo", "mknod",
  "mktemp", "more", "mount", "mv", "namei", "nawk", "nice", "nl", "nohup", "nproc", "numfmt", "od",
  "paste", "pathchk", "perl", "pinky", "pr", "printenv", "printf", "prlimit", "ptx", "pwd",
  "rbash", "readlink", "realpath", "renice", "rev", "rm", "rmdir", "run-parts", "script", "sdiff",
  "sed", "seq", "setarch", "setpriv", "setsid", "sh", "sha1sum", "sha224sum", "sha256sum",
  "sha384sum", "sha512sum", "shred", "shuf", "sleep", "sort", "split", "stat", "stdbuf", "stty",
  "su", "sum", "sync", "tac", "tail", "tar", "taskset", "tee", "tempfile", "test", "timeout",
  "touch", "tput", "tr", "true", "truncate", "tsort", "tty", "umount", "uname", "unexpand", "uniq",
  "unlink", "unshare", "users", "vdir", "wc", "whereis", "which", "who", "whoami", "xargs", "yes",
  "zcat", "zgrep"]

/-- What a system holds at a place. -/
def systemNode? (place : Place) : Option Node :=
  if systemFolders.contains place then some .folder
  else match place with
    | ["usr", "bin", name] => if systemPrograms.contains name then some (.program name) else none
    | _ => ((systemLinks.lookup place).map .link).or ((systemDevices.lookup place).map .device)

/-- The octets at the start of a program, which are no text. -/
def programContent : Bytes := [0x7F, 0x45, 0x4C, 0x46, 0x02, 0x01, 0x01, 0x00, 0xFF]

end PolicyReplay.Files
