/-!
# Accounts

The users and groups of a computer, by their names and numbers, as its files tell them.
-/

namespace StaticMulticast.Host

/-- A user: the name, the number, the number of the first group, a remark, the own directory, and
the shell. -/
structure Account where
  name : String
  number : Nat
  group : Nat
  remark : String
  home : String
  shell : String
deriving DecidableEq, Repr

namespace Account

/-- A user who cannot log in, and is named by the remark too. -/
def service (name : String) (number group : Nat) (home : String) : Account :=
  ⟨name, number, group, name, home, "/usr/sbin/nologin"⟩

/-- The users. -/
def all : List Account :=
  [⟨"root", 0, 0, "root", "/root", "/bin/bash"⟩, service "daemon" 1 1 "/usr/sbin",
    service "bin" 2 2 "/bin", service "sys" 3 3 "/dev",
    ⟨"sync", 4, 65534, "sync", "/bin", "/bin/sync"⟩, service "games" 5 60 "/usr/games",
    service "man" 6 12 "/var/cache/man", service "lp" 7 7 "/var/spool/lpd",
    service "mail" 8 8 "/var/mail", service "news" 9 9 "/var/spool/news",
    service "uucp" 10 10 "/var/spool/uucp", service "proxy" 13 13 "/bin",
    service "www-data" 33 33 "/var/www", service "backup" 34 34 "/var/backups",
    ⟨"list", 38, 38, "Mailing List Manager", "/var/list", "/usr/sbin/nologin"⟩,
    ⟨"irc", 39, 39, "ircd", "/run/ircd", "/usr/sbin/nologin"⟩,
    ⟨"_apt", 42, 65534, "", "/nonexistent", "/usr/sbin/nologin"⟩,
    service "nobody" 65534 65534 "/nonexistent"]

/-- The line of a user. -/
def line (account : Account) : String :=
  String.intercalate ":" [account.name, "x", toString account.number, toString account.group,
    account.remark, account.home, account.shell]

/-- The user of a name. -/
def named? (name : String) : Option Account :=
  all.find? fun account => account.name = name

/-- The name of a number, or the number itself if nobody has it. -/
def nameOf (number : Nat) : String :=
  ((all.find? fun account => account.number = number).map Account.name).getD (toString number)

end Account

/-- The groups of users, with their numbers. -/
def groupNumbers : List (String × Nat) :=
  [("root", 0), ("daemon", 1), ("bin", 2), ("sys", 3), ("adm", 4), ("tty", 5), ("disk", 6),
    ("lp", 7), ("mail", 8), ("news", 9), ("uucp", 10), ("man", 12), ("proxy", 13), ("kmem", 15),
    ("dialout", 20), ("fax", 21), ("voice", 22), ("cdrom", 24), ("floppy", 25), ("tape", 26),
    ("sudo", 27), ("audio", 29), ("dip", 30), ("www-data", 33), ("backup", 34), ("operator", 37),
    ("list", 38), ("irc", 39), ("src", 40), ("shadow", 42), ("utmp", 43), ("video", 44),
    ("sasl", 45), ("plugdev", 46), ("staff", 50), ("games", 60), ("users", 100),
    ("nogroup", 65534)]

/-- The name of the group of a number, or the number itself if there is none. -/
def groupName (number : Nat) : String :=
  ((groupNumbers.find? fun group => group.2 = number).map fun group => group.1).getD
    (toString number)

/-- The line of a group. -/
def groupLine (group : String × Nat) : String :=
  group.1 ++ ":x:" ++ toString group.2 ++ ":"

/-- Lines with their ends. -/
def accountText (lines : List String) : String :=
  String.join (lines.map fun line => line ++ "\n")

end StaticMulticast.Host
