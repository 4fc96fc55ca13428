import StaticMulticast.Host.Utility.Statement.Token

/-!
# Names and texts in scripts of statements

What a script can use and has declared, and the texts that it quotes.
-/

/-!
## The library of scripts of statements

The modules that a script can use, with the names of the functions and constants in them.
-/

namespace StaticMulticast.Host.Utility.Statement

/-- A module: the names that a script gets by using it, and those that it can ask for. -/
structure Module where
  name : String
  usual : List String := []
  others : List String := []

/-- The numbers of faults by name. -/
def faultNames : List (String × Nat) :=
  [("EPERM", 1), ("ENOENT", 2), ("ESRCH", 3), ("EINTR", 4), ("EIO", 5), ("ENXIO", 6), ("E2BIG", 7),
    ("ENOEXEC", 8), ("EBADF", 9), ("ECHILD", 10), ("EAGAIN", 11), ("EWOULDBLOCK", 11),
    ("ENOMEM", 12), ("EACCES", 13), ("EFAULT", 14), ("EBUSY", 16), ("EEXIST", 17), ("EXDEV", 18),
    ("ENODEV", 19), ("ENOTDIR", 20), ("EISDIR", 21), ("EINVAL", 22), ("ENFILE", 23), ("EMFILE", 24),
    ("ENOTTY", 25), ("ETXTBSY", 26), ("EFBIG", 27), ("ENOSPC", 28), ("ESPIPE", 29), ("EROFS", 30),
    ("EMLINK", 31), ("EPIPE", 32), ("EDOM", 33), ("ERANGE", 34), ("EDEADLK", 35),
    ("ENAMETOOLONG", 36), ("ENOSYS", 38), ("ENOTEMPTY", 39), ("ELOOP", 40), ("EADDRINUSE", 98),
    ("EADDRNOTAVAIL", 99), ("ECONNREFUSED", 111), ("ETIMEDOUT", 110), ("EINPROGRESS", 115)]

/-- Constants about files, by name. -/
def fileNumbers : List (String × Nat) :=
  [("O_RDONLY", 0), ("O_WRONLY", 1), ("O_RDWR", 2), ("O_CREAT", 0x40), ("O_EXCL", 0x80),
    ("O_NOCTTY", 0x100), ("O_TRUNC", 0x200), ("O_APPEND", 0x400), ("O_NONBLOCK", 0x800),
    ("LOCK_SH", 1), ("LOCK_EX", 2), ("LOCK_NB", 4), ("LOCK_UN", 8), ("SEEK_SET", 0),
    ("SEEK_CUR", 1), ("SEEK_END", 2), ("F_GETFD", 1), ("F_SETFD", 2), ("F_GETFL", 3),
    ("F_SETFL", 4), ("FD_CLOEXEC", 1), ("S_IFMT", 0xF000), ("S_IFREG", 0x8000),
    ("S_IFDIR", 0x4000), ("S_IFLNK", 0xA000), ("S_IRUSR", 0x100), ("S_IWUSR", 0x80),
    ("S_IXUSR", 0x40), ("S_IRWXU", 0x1C0), ("S_IRGRP", 0x20), ("S_IWGRP", 0x10), ("S_IXGRP", 8),
    ("S_IRWXG", 0x38), ("S_IROTH", 4), ("S_IWOTH", 2), ("S_IXOTH", 1), ("S_IRWXO", 7),
    ("R_OK", 4), ("W_OK", 2), ("X_OK", 1), ("F_OK", 0)]

/-- Constants about processes, by name. -/
def processNumbers : List (String × Nat) :=
  [("WNOHANG", 1), ("WUNTRACED", 2), ("EXIT_SUCCESS", 0), ("EXIT_FAILURE", 1), ("SIGHUP", 1),
    ("SIGINT", 2), ("SIGQUIT", 3), ("SIGILL", 4), ("SIGTRAP", 5), ("SIGABRT", 6), ("SIGBUS", 7),
    ("SIGFPE", 8), ("SIGKILL", 9), ("SIGUSR1", 10), ("SIGSEGV", 11), ("SIGUSR2", 12),
    ("SIGPIPE", 13), ("SIGALRM", 14), ("SIGTERM", 15), ("SIGCHLD", 17), ("SIGCONT", 18),
    ("SIGSTOP", 19), ("SIGTSTP", 20), ("SIGTTIN", 21), ("SIGTTOU", 22), ("SIG_BLOCK", 0),
    ("SIG_UNBLOCK", 1), ("SIG_SETMASK", 2), ("STDIN_FILENO", 0), ("STDOUT_FILENO", 1),
    ("STDERR_FILENO", 2)]

/-- Constants about numbers and texts, by name. -/
def rangeNumbers : List (String × Int) :=
  [("INT_MAX", 2147483647), ("INT_MIN", -2147483648), ("UINT_MAX", 4294967295),
    ("LONG_MAX", 9223372036854775807), ("LONG_MIN", -9223372036854775808), ("CHAR_BIT", 8),
    ("UCHAR_MAX", 255), ("SHRT_MAX", 32767), ("PATH_MAX", 4096), ("BUFSIZ", 8192), ("EOF", -1),
    ("LC_ALL", 6), ("LC_CTYPE", 0), ("LC_NUMERIC", 1), ("LC_TIME", 2), ("DBL_DIG", 15)]

/-- The functions about numbers, processes and times. -/
def systemFunctions : List String :=
  ["floor", "ceil", "fmod", "pow", "fmax", "fmin", "round", "trunc", "strftime", "mktime", "_exit",
    "getpid", "setsid", "dup", "dup2", "isatty", "mkfifo", "strtol", "strtod", "strerror", "errno",
    "toupper", "tolower", "isdigit", "isalpha", "isspace", "WIFEXITED", "WEXITSTATUS",
    "WIFSIGNALED", "WTERMSIG", "getcwd", "access", "abort", "pause", "nice", "ttyname", "uname",
    "ctime", "asctime", "setlocale", "raise", "tan", "tanh", "sinh", "cosh", "log10", "log2",
    "ctermid", "sigaction", "strstr", "lround", "S_ISREG", "S_ISDIR"]

/-- Names of constants. -/
def namesOf {Number : Type} (rows : List (String × Number)) : List String :=
  rows.map fun row => row.1

/-- The functions for lists. -/
def listTools : List String :=
  ["sum", "sum0", "max", "min", "maxstr", "minstr", "product", "first", "any", "all", "none",
    "notall", "reduce", "reductions", "shuffle", "uniq", "uniqnum", "uniqint", "uniqstr", "pairs",
    "pairkeys", "pairvalues", "pairmap", "pairgrep", "head", "tail", "zip", "mesh", "sample"]

/-- The functions of the library that take statements first. -/
def blockFunctions : List String :=
  ["first", "any", "all", "none", "notall", "reduce", "reductions", "pairmap", "pairgrep"]

/-- The modules. -/
def modules : List Module :=
  [{ name := "POSIX"
     usual := systemFunctions ++ namesOf faultNames ++ namesOf fileNumbers ++
        namesOf processNumbers ++ namesOf rangeNumbers ++ ["DBL_MAX", "DBL_MIN", "DBL_EPSILON",
        "FLT_MAX", "FLT_EPSILON"] },
    { name := "Errno", others := namesOf faultNames },
    { name := "Fcntl", usual := namesOf fileNumbers, others := ["S_ISREG", "S_ISDIR"] },
    { name := "List::Util", others := listTools },
    { name := "Scalar::Util"
      others := ["blessed", "reftype", "looks_like_number", "refaddr", "weaken", "dualvar",
        "readonly", "openhandle"] },
    { name := "Time::HiRes"
      others := ["sleep", "usleep", "nanosleep", "time", "alarm", "ualarm", "gettimeofday",
        "tv_interval", "clock_gettime", "CLOCK_MONOTONIC", "CLOCK_REALTIME", "stat"] },
    { name := "File::Basename", usual := ["basename", "dirname", "fileparse"] },
    { name := "File::Spec" },
    { name := "File::Spec::Functions"
      usual := ["catfile", "catdir", "curdir", "rootdir", "updir", "file_name_is_absolute"]
      others := ["splitdir", "rel2abs", "abs2rel", "tmpdir", "splitpath"] },
    { name := "File::Copy", usual := ["copy", "move"], others := ["cp", "mv"] },
    { name := "File::Path"
      usual := ["mkpath", "rmtree"], others := ["make_path", "remove_tree"] },
    { name := "File::Temp", usual := ["tempfile", "tempdir"] },
    { name := "File::Find", usual := ["find", "finddepth"] },
    { name := "File::stat" },
    { name := "Cwd", usual := ["getcwd", "cwd"], others := ["abs_path", "realpath"] },
    { name := "Data::Dumper", usual := ["Dumper"] },
    { name := "Carp", usual := ["croak", "carp", "confess"], others := ["cluck"] },
    { name := "MIME::Base64", usual := ["encode_base64", "decode_base64"] },
    { name := "Digest::MD5", others := ["md5_hex", "md5", "md5_base64"] },
    { name := "Digest::SHA"
      others := ["sha1_hex", "sha224_hex", "sha256_hex", "sha384_hex", "sha512_hex"] },
    { name := "Sys::Hostname", usual := ["hostname"] },
    { name := "Time::Local", usual := ["timelocal", "timegm"] },
    { name := "Storable"
      usual := ["store", "retrieve", "nstore"], others := ["dclone", "freeze", "thaw"] },
    { name := "Text::ParseWords"
      usual := ["shellwords", "quotewords", "parse_line"] },
    { name := "Text::Wrap", usual := ["wrap", "fill"] },
    { name := "Term::ANSIColor", usual := ["color", "colored"] },
    { name := "Getopt::Long", usual := ["GetOptions"], others := ["GetOptionsFromArray"] },
    { name := "Getopt::Std", usual := ["getopts", "getopt"] },
    { name := "Encode"
      usual := ["encode", "decode", "encode_utf8", "decode_utf8"], others := ["is_utf8"] },
    { name := "Math::Trig", usual := ["pi", "tan", "deg2rad", "rad2deg"] },
    { name := "IPC::Open3", usual := ["open3"] }, { name := "IPC::Open2", usual := ["open2"] },
    { name := "Socket" }, { name := "IO::Handle" }, { name := "IO::File" }, { name := "IO::Pipe" },
    { name := "IO::Select" }, { name := "IO::Socket" }, { name := "IO::Socket::INET" },
    { name := "IO" }, { name := "FindBin" }, { name := "Env" }, { name := "English" },
    { name := "Exporter" }, { name := "Tie::Hash" }, { name := "Tie::Array" },
    { name := "Tie::Scalar" }, { name := "Benchmark" }, { name := "Symbol" }, { name := "Config" },
    { name := "Time::Piece" }, { name := "Hash::Util" }, { name := "Math::BigInt" },
    { name := "Math::BigFloat" }, { name := "JSON::PP" }, { name := "Test::More" },
    { name := "Safe" }, { name := "Opcode" }, { name := "Unicode::Normalize" },
    { name := "File::Compare", usual := ["compare"] }, { name := "SelectSaver" }, { name := "B" },
    { name := "XSLoader" }, { name := "DynaLoader" }, { name := "AutoLoader" },
    { name := "File::Glob", others := ["bsd_glob"] }, { name := "Class::Struct" },
    { name := "Term::ReadLine" }, { name := "Text::Abbrev" }, { name := "Text::Tabs" },
    { name := "Text::Balanced" }, { name := "Thread::Queue" }, { name := "User::pwent" },
    { name := "I18N::Langinfo" }, { name := "HTTP::Tiny" }, { name := "Memoize" },
    { name := "Compress::Zlib" }, { name := "Archive::Tar" }, { name := "Params::Check" },
    { name := "Pod::Usage" }, { name := "UNIVERSAL" }]

/-- The modules that change how a script is read. -/
def pragmas : List String :=
  ["strict", "warnings", "utf8", "feature", "integer", "lib", "vars", "constant", "parent", "base",
    "bigint", "bignum", "bigrat", "diagnostics", "autodie", "locale", "open", "less", "mro", "overload",
    "re", "sigtrap", "sort", "subs", "threads", "version", "bytes", "charnames", "encoding", "fields",
    "filetest", "if", "blib", "autouse", "attributes", "experimental", "builtin", "stable", "vmsish"]

/-- The path of a module. -/
def modulePath (name : String) : String :=
  String.intercalate "/" (parts name.toList []) ++ ".pm"
where
  /-- The parts of a name. -/
  parts : List Char → List Char → List String
    | ':' :: ':' :: rest, done => String.ofList done.reverse :: parts rest []
    | letter :: rest, done => parts rest (letter :: done)
    | [], done => [String.ofList done.reverse]

/-- The functions that a use of a module makes known, with their full names. It is given what is
asked for, if something is. -/
def Module.imports (owner : Module) (wanted : Option (List String)) : List (String × String) :=
  let all := owner.usual ++ owner.others
  let named (name : String) : List String :=
    match name.toList with
    | ':' :: _ => all
    | '&' :: rest => [String.ofList rest]
    | _ => [name]
  let names := match wanted with
    | none => owner.usual
    | some names => names.flatMap named
  names.map fun name => (name, owner.name ++ "::" ++ name)

end StaticMulticast.Host.Utility.Statement

/-!
## What a script of statements is read with

The text that is left, and the names that have been declared around it. A name that is declared gets
a place of its own, and is seen from the next statement on up to the end of its block.
-/

namespace StaticMulticast.Host.Utility.Statement

/-- Why a script cannot be read, with the status that it then has. -/
structure Refusal where
  status : Nat
  message : String

/-- What is left to read, and what has been read so far. -/
structure Reading where
  rest : List Char
  file : String
  /-- The number of lines of the text, unless all of it counts as one line. -/
  lines : Nat := 1
  fixedLine : Option Nat := none
  script : Script := { }
  /-- The names that are seen, the last declared first, with the functions around them. -/
  scope : List (String × Nat × Term) := []
  /-- The names that have been declared in the statement that is read. -/
  pending : List (String × Term) := []
  /-- The number of functions around. -/
  depth : Nat := 0
  package : String := "main"
  /-- The functions of the library that are known by short names. -/
  imports : List (String × String) := []
  /-- The functions that take no arguments. -/
  constants : List String := []
  /-- The functions that take statements first. -/
  takers : List String := []
  /-- The number of terms that remember something. -/
  memories : Nat := 0
  isStrict : Bool := false

/-- A function that reads from a script. -/
abbrev Reader := StateT Reading (Except Refusal)

/-- The line at which the text that is left begins. -/
def Reading.line (reading : Reading) : Nat :=
  reading.fixedLine.getD
    (reading.lines - (reading.rest.filter fun letter => letter = '\n').length)

/-- Refuses a script. -/
def refuseScript {Result : Type} (message : String) : Reader Result := do
  let state ← get
  throw ⟨255, message ++ " at " ++ state.file ++ " line " ++ toString state.line ++ ".\n"⟩

/-- What follows cannot be read. -/
def wrong {Result : Type} : Reader Result := do
  let near := String.ofList ((← get).rest.take 30)
  let state ← get
  throw ⟨255, "syntax error at " ++ state.file ++ " line " ++ toString state.line ++ ", near \"" ++
    near ++ "\"\n"⟩

/-- The readers of what is nested in something else. -/
structure Readers where
  /-- Terms between words that bind least. -/
  term : Reader Term
  /-- A term, perhaps with `not` in front of it. -/
  negation : Reader Term
  /-- Terms with commas between them. -/
  commas : Reader Term
  /-- A term without commas. -/
  assign : Reader Term
  /-- A term with operators that bind at least as tightly as a level. -/
  binary : Nat → Reader Term
  /-- A term with marks in front of it. -/
  unary : Reader Term
  /-- A term that is perhaps counted up or down after it. -/
  advance : Reader Term
  deed : Reader Deed

/-- The readers where nothing can be nested any more. -/
def Readers.nothing : Readers :=
  ⟨wrong, wrong, wrong, wrong, fun _ => wrong, wrong, wrong, wrong⟩

/-- A bound on what can be read one after the other. -/
def roomLeft : Reader Nat := do
  pure ((← get).rest.length + 2)

/-! ## Characters -/

/-- Goes on with another text. -/
def goTo (rest : List Char) : Reader Unit :=
  modify fun state => { state with rest }

/-- Passes over blanks and remarks, and gives what is left. -/
def skip : Reader (List Char) := do
  let text := (← get).rest
  let rest := withoutBlanks (text.length + 1) text
  goTo rest
  pure rest

/-- Takes a mark if it follows. -/
def accept (mark : String) : Reader Bool := do
  let text ← skip
  if mark.toList.isPrefixOf text then do
    goTo (text.drop mark.length)
    pure true
  else pure false

/-- Takes a mark that has to follow. -/
def expect (mark : String) : Reader Unit := do
  if !(← accept mark) then wrong

/-- A mark follows. -/
def follows (mark : String) : Reader Bool := do
  pure (mark.toList.isPrefixOf (← skip))

/-- Takes a word if it follows, and is no key. -/
def acceptWord (word : String) : Reader Bool := do
  let text ← skip
  let (found, rest) := takeWord text
  let isKey := "=>".toList.isPrefixOf (withoutBlanks (rest.length + 1) rest)
  if found = word && !isKey then do
    goTo rest
    pure true
  else pure false

/-- Reads from another text up to its end, on the line that is at hand. -/
def within {Result : Type} (text : List Char) (reader : Reader Result) : Reader Result := do
  let before ← get
  set { before with rest := text, fixedLine := some before.line }
  let result ← reader
  modify fun state => { state with rest := before.rest, fixedLine := before.fixedLine }
  pure result

/-- Takes the text between marks that follows, with the mark that opens it. -/
def takeQuoted : Reader (Char × List Char) := do
  let text := (← get).rest
  match text, takeQuote? text with
  | opening :: _, some (quoted, rest) => do
      goTo rest
      pure (opening, quoted)
  | _, _ => refuseScript "Can't find string terminator anywhere before EOF"

/-- Takes the second text between marks. -/
def takeSecondQuoted (opening : Char) : Reader (List Char) := do
  match takeSecond? opening (← get).rest with
  | some (quoted, rest) => do
      goTo rest
      pure quoted
  | none => refuseScript "Substitution replacement not terminated"

/-- Takes the letters behind a closing mark. -/
def takeFlags : Reader String := do
  let (flags, rest) := (← get).rest.span Char.isAlpha
  goTo rest
  pure (String.ofList flags)

/-! ## Names -/

/-- Changes what has been read. -/
def modifyScript (change : Script → Script) : Reader Unit :=
  modify fun state => { state with script := change state.script }

/-- Adds a body, and gives its number. -/
def addBody (deed : Deed) : Reader Nat := do
  let number := (← get).script.bodies.size
  modifyScript fun script => { script with bodies := script.bodies.push deed }
  pure number

/-- The number of a term that remembers something. -/
def addMemory : Reader Nat := do
  let number := (← get).memories
  modify fun state => { state with memories := number + 1 }
  pure number

/-- Declares a name, which is seen from the next statement on. -/
def declareName (shape : Shape) (name : String) : Reader Term := do
  let slot := (← get).script.slots.size
  let place := Term.own shape slot
  modifyScript fun script => { script with slots := script.slots.push shape }
  modify fun state =>
    { state with pending := (String.singleton shape.mark ++ name, place) :: state.pending }
  pure place

/-- Lets a name stand for something from the next statement on. -/
def nameAs (name : String) (place : Term) : Reader Unit :=
  modify fun state => { state with pending := (name, place) :: state.pending }

/-- Lets the names be seen that have been declared. -/
def settle : Reader Unit :=
  modify fun state =>
    { state with
      scope := (state.pending.map fun (name, place) => (name, state.depth, place)) ++ state.scope
      pending := [] }

/-- Takes note that something can lead to a place later. -/
def keep : Term → Reader Unit
  | .own _ slot => modifyScript fun script => { script with kept := slot :: script.kept }
  | _ => pure ()

/-- Reads a block of its own: what is declared in it is not seen after it. -/
def inBlock {Result : Type} (reader : Reader Result) : Reader Result := do
  let before ← get
  let result ← reader
  modify fun state =>
    { state with
      scope := before.scope, pending := before.pending, isStrict := before.isStrict
      package := before.package }
  pure result

/-- The names that all packages share. -/
def commonNames : List String :=
  ["ENV", "ARGV", "INC", "STDIN", "STDOUT", "STDERR", "ARGVOUT", "_", "0"]

/-- A name with its package. -/
def qualified (package name : String) : String :=
  match name.toList with
  | ':' :: ':' :: rest => "main::" ++ String.ofList rest
  | letters =>
      let isSpecial := commonNames.contains name || !(letters.head?.any isNameStart)
      if isSpecial then "main::" ++ name
      else if letters.contains ':' then name
      else package ++ "::" ++ name

/-- What a name stands for. -/
def resolve (shape : Shape) (name : String) : Reader Term := do
  let state ← get
  match state.scope.lookup (String.singleton shape.mark ++ name) with
  | some (depth, place) => do
      if depth < state.depth then keep place
      pure place
  | none =>
      let letters := name.toList
      let isFree := letters.contains ':' || commonNames.contains name ||
        !(letters.head?.any isNameStart) || (shape = .scalar && (name = "a" || name = "b")) ||
        shape = .function || letters.head? = some '^'
      if state.isStrict && !isFree then
        let own := String.singleton shape.mark ++ name
        refuseScript ("Global symbol \"" ++ own ++ "\" requires explicit package name (did you " ++
          "forget to declare \"my " ++ own ++ "\"?)")
      else pure (.shared shape (qualified state.package name))

/-- The full name of a function of the script or of the library that is known by a short name. -/
def knownFunction? (name : String) : Reader (Option String) := do
  let state ← get
  let full := qualified state.package name
  if (state.script.functions.lookup full).isSome then pure (some full)
  else pure (state.imports.lookup name)

/-! ## Built-in functions -/

/-- Functions that take one argument, which binds more tightly than comparisons. -/
def unaryFunctions : List String :=
  ["defined", "length", "shift", "pop", "exit", "int", "abs", "sqrt", "sin", "cos", "exp", "log",
    "uc", "lc", "ucfirst", "lcfirst", "fc", "sleep", "chomp", "chop", "chdir", "rmdir", "ord", "chr",
    "scalar", "hex", "oct", "exists", "delete", "close", "eof", "readline", "umask", "quotemeta",
    "undef", "rand", "srand", "keys", "values", "each", "caller", "ref", "require", "lock", "alarm",
    "readlink", "stat", "lstat", "localtime", "gmtime", "closedir", "readdir", "rewinddir", "getc",
    "fileno", "tell", "study", "pos", "chroot", "getpgrp", "untie", "tied", "glob", "readpipe",
    "getpwnam", "getpwuid", "getgrnam", "getgrgid", "telldir", "reset"]

/-- Functions that take a list of arguments. -/
def listFunctions : List String :=
  ["die", "warn", "system", "exec", "kill", "unlink", "join", "split", "push", "unshift", "reverse",
    "sprintf", "substr", "index", "rindex", "open", "mkdir", "rename", "chmod", "return",
    "binmode", "utime", "link", "symlink", "select", "opendir", "splice", "chown", "seek", "read",
    "sysread", "syswrite", "sysopen", "sysseek", "truncate", "pack", "unpack", "atan2", "waitpid",
    "bless", "pipe", "flock", "fcntl", "ioctl", "vec", "crypt", "setpgrp", "getpriority", "tie",
    "setpriority", "socket", "syscall", "seekdir", "formline", "dump"]

/-- Functions without arguments. -/
def bareFunctions : List String :=
  ["time", "times", "wait", "getppid", "fork", "wantarray", "getlogin", "break"]

/-- Functions that take `$_` if they have no argument. -/
def topicFunctions : List String :=
  ["length", "int", "abs", "sqrt", "sin", "cos", "exp", "log", "uc", "lc", "ucfirst", "lcfirst", "fc",
    "ord", "chr", "hex", "oct", "quotemeta", "defined", "chomp", "chop", "rmdir", "readlink", "stat",
    "lstat", "unlink", "ref", "pos", "mkdir", "alarm", "glob", "require", "study", "eval"]

/-- Words that have a meaning of their own. -/
def isBuiltIn (word : String) : Bool :=
  unaryFunctions.contains word || listFunctions.contains word || bareFunctions.contains word ||
    quoteWords.contains word || joiningWords.contains word ||
    ["print", "printf", "say", "sort", "map", "grep", "my", "our", "local", "state", "sub", "do",
      "eval", "last", "next", "redo", "not", "else", "elsif", "use", "no", "package", "goto"
      ].contains word

/-- The letters of checks of paths. -/
def checkLetters : List Char := "rwxoRWXOezsfdlpSugkbctTBAMC".toList

end StaticMulticast.Host.Utility.Statement

/-!
## Texts in scripts of statements

Texts between marks and texts of several lines. What a backslash does in them depends on what they
are: in an expression it is left to the expression.
-/

namespace StaticMulticast.Host.Utility.Statement

/-! ## Characters behind a backslash -/

/-- The character for a letter behind a backslash in a text. -/
def escaped : Char → Char
  | 'n' => '\n'
  | 't' => '\t'
  | 'r' => '\r'
  | 'a' => Char.ofNat 7
  | 'b' => Char.ofNat 8
  | 'e' => Char.ofNat 27
  | 'f' => Char.ofNat 12
  | letter => letter

/-- The octets of a character with a number, as characters. -/
def charactersOf (number : Nat) : List Char :=
  if number < 0x100 then [Char.ofNat number]
  else (String.singleton (Char.ofNat number)).toUTF8.toList.map fun octet => Char.ofNat octet.toNat

/-- The characters for what stands behind a backslash in a text, and what follows. -/
def takeEscape (text : List Char) : List Char × List Char :=
  let inBase (base most : Nat) (digits : List Char) : List Char × Nat :=
    let digits := (digits.take most).takeWhile fun letter => (digitWorth? base letter).isSome
    (charactersOf (numberOf base digits), digits.length)
  match text with
  | 'x' :: '\x7b' :: rest =>
      let (characters, length) := inBase 16 8 rest
      (characters, rest.drop (length + 1))
  | 'x' :: rest =>
      let (characters, length) := inBase 16 2 rest
      (characters, rest.drop length)
  | 'o' :: '\x7b' :: rest =>
      let (characters, length) := inBase 8 8 rest
      (characters, rest.drop (length + 1))
  | 'N' :: '\x7b' :: 'U' :: '+' :: rest =>
      let (characters, length) := inBase 16 8 rest
      (characters, rest.drop (length + 1))
  | 'c' :: letter :: rest => ([Char.ofNat (letter.toUpper.toNat ^^^ 0x40)], rest)
  | letter :: rest =>
      if (digitWorth? 8 letter).isSome then
        let (characters, length) := inBase 8 3 text
        (characters, text.drop length)
      else ([escaped letter], rest)
  | [] => (['\\'], [])

/-! ## What stands in a text -/

/-- What stands behind an opening bracket in a text looks like an index. -/
def looksLikeIndex (isPattern : Bool) (text : List Char) : Bool :=
  let inside := text.takeWhile (· != ']')
  let body := if inside.head? = some '-' then inside.tail else inside
  let isName (letters : List Char) : Bool := !letters.isEmpty && letters.all isNameLetter
  (text.drop inside.length).head? = some ']' &&
    ((!body.isEmpty && body.all Char.isDigit) ||
      (match body with
        | '$' :: '#' :: name => isName name
        | '$' :: rest =>
            let (name, after) := rest.span isNameLetter
            !name.isEmpty && (after.isEmpty ||
              (!isPattern && after.all fun letter =>
                isNameLetter letter || "+-*/% $[".toList.contains letter))
        | _ => false))

/-- What stands behind an opening brace in an expression is a number of repetitions. -/
def looksLikeCount (text : List Char) : Bool :=
  let inside := text.takeWhile (· != '\x7d')
  !inside.isEmpty && inside.all (fun letter => letter.isDigit || letter = ',')

/-- A name can begin behind the mark of one value in a text. -/
def beginsValue (isPattern : Bool) (text : List Char) : Bool :=
  match text with
  | [] => false
  | letter :: rest =>
      isNameLetter letter || letter = '\x7b' ||
        (letter = ':' && "::".toList.isPrefixOf text &&
          (text.drop 2).head?.any isNameStart) ||
        (letter = '$' && (!isPattern || rest.head?.any fun next => isNameLetter next || next = '\x7b')) ||
        (if isPattern then letter = ';' || ("&+!@,.".toList.contains letter && !rest.isEmpty)
          else "&+!@/\\,;.<>[]?|()%=~-^0".toList.contains letter || letter.toNat = 0x27 ||
            letter.toNat = 0x60)

/-- A name can begin behind the mark of a list in a text. -/
def beginsList (isPattern : Bool) (text : List Char) : Bool :=
  match text with
  | letter :: rest =>
      isNameStart letter || letter = '\x7b' || letter = '$' ||
        (!isPattern && (letter = '-' || letter = '+')) ||
        (letter = ':' && "::".toList.isPrefixOf text && (rest.drop 1).head?.any isNameStart)
  | [] => false

/-! ## Texts of several lines -/

/-- The lines up to one that ends a text of several lines, and what follows. The bound is on their
number. -/
def takeLinesUpTo (isEnd : List Char → Bool) : Nat → List Char → List (List Char) →
    Option (List (List Char) × List Char)
  | 0, _, _ => none
  | bound + 1, text, done =>
      if text.isEmpty then none
      else
        let (line, rest) := text.span (· != '\n')
        if isEnd line then some (done.reverse, rest.drop 1)
        else takeLinesUpTo isEnd bound (rest.drop 1) (line :: done)

/-- Lines without the blanks that all of them begin with. -/
def withoutMargin (lines : List (List Char)) : List (List Char) :=
  let margins := (lines.filter fun line => !line.all Char.isWhitespace).map fun line =>
    (line.takeWhile fun letter => letter = ' ' || letter = '\t').length
  let margin := margins.foldl min (margins.headD 0)
  lines.map fun line => line.drop (min margin (line.takeWhile Char.isWhitespace).length)

/-- The text of several lines for which a mark stands, whether names in it stand for something, and
what follows the mark. It begins on the next line. -/
def takeHere? (text : List Char) : Option (Bool × List Char × List Char) := do
  let isIndented := text.head? = some '~'
  let text := if isIndented then text.tail else text
  let (isPlain, word, rest) : Bool × List Char × List Char ← match text with
    | '"' :: _ => (takeQuote? text).map fun (word, rest) => (false, word, rest)
    | '\'' :: _ => (takeQuote? text).map fun (word, rest) => (true, word, rest)
    | letter :: _ =>
        if isNameStart letter then
          let (word, rest) := text.span isNameLetter
          some (false, word, rest)
        else none
    | [] => none
  let (line, beyond) := rest.span (· != '\n')
  let isEnd (line : List Char) : Bool :=
    (if isIndented then line.dropWhile Char.isWhitespace else line) = word
  let (lines, after) ← takeLinesUpTo isEnd (beyond.length + 1) (beyond.drop 1) []
  let lines := if isIndented then withoutMargin lines else lines
  some (!isPlain, lines.flatMap (· ++ ['\n']), line ++ '\n' :: after)

end StaticMulticast.Host.Utility.Statement
