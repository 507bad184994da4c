/-
LintMend.Failure — what can go wrong while the program works.

A refusal of the file system names the files that it is about. Such names need not be the same in
every run, as that of a temporary file is drawn at random in part, so the text of a failure comes in
two wordings, with them and without.

  `Errno`, `FileName` — the refusals of the file system, and the files that they name
  `Failure`           — every failure, by cause
  `Failure.message`   — the failure in words
  `Failure.text`      — its text in either wording
-/
import LintMend.Text.Quoted
import LintMend.Utf8
import LintMend.Validation.Problem

namespace LintMend

/-- A refusal of the file system. -/
inductive Errno where
  | noEntry
  | exists
  | badExecutable
  | permission
  | busy
  | notDirectory
  | isDirectory
  | nameTooLong
  | tooManyLinks
  | noSpace
  deriving DecidableEq, Repr

namespace Errno

/-- The number of a refusal. -/
def number : Errno → Nat
  | noEntry => 2
  | badExecutable => 8
  | permission => 13
  | busy => 16
  | «exists» => 17
  | notDirectory => 20
  | isDirectory => 21
  | noSpace => 28
  | nameTooLong => 36
  | tooManyLinks => 40

/-- The refusal in words. -/
def reason : Errno → Text
  | noEntry => "No such file or directory"
  | badExecutable => "Exec format error"
  | permission => "Permission denied"
  | busy => "Device or resource busy"
  | «exists» => "File exists"
  | notDirectory => "Not a directory"
  | isDirectory => "Is a directory"
  | noSpace => "No space left on device"
  | nameTooLong => "File name too long"
  | tooManyLinks => "Too many levels of symbolic links"

/-- Number and words. -/
def message (e : Errno) : Text :=
  "[Errno " ++ Text.ofNat e.number ++ "] " ++ e.reason

end Errno

/-- A file as a refusal names it. -/
inductive FileName where
  | plain (text : Text)
  /-- A temporary file. What stands between the two texts is drawn at random. -/
  | temporary (before after : Text)
  deriving DecidableEq, Repr

namespace FileName

/-- The name with the part that was drawn for it. -/
def drawn (part : Text) : FileName → FileName
  | plain text => plain text
  | temporary before after => plain (before ++ part ++ after)

/-- The text of a name, without the random part as long as none was drawn. -/
def text : FileName → Text
  | plain text => text
  | temporary before after => before ++ after

end FileName

/-- Number and words of a refusal, and the files that it names; a second one is where the first was
to be moved. -/
def Errno.text (e : Errno) : List FileName → Text
  | [] => e.message
  | [file] => e.message ++ ": " ++ file.text.quoted
  | file :: target :: _ =>
    e.message ++ ": " ++ file.text.quoted ++ " -> " ++ target.text.quoted

/-- How a connection can fail. -/
inductive LinkFault where
  | connectTimeout
  | readTimeout
  | writeTimeout
  | poolTimeout
  | connect
  | read
  | write
  | close
  | protocol
  | localProtocol
  | proxy
  | unsupported
  | decoding
  | redirects
  deriving DecidableEq, Repr

/-- A connection that failed because time ran out. -/
def LinkFault.isTimeout : LinkFault → Bool
  | connectTimeout | readTimeout | writeTimeout | poolTimeout => true
  | _ => false

/-- A connection that failed on the network itself. -/
def LinkFault.isNetwork : LinkFault → Bool
  | connect | read | write | close => true
  | _ => false

/-- What is looked up in vain, or is too large. -/
inductive Slip where
  | key
  | index
  | part
  | overflow
  deriving DecidableEq, Repr

/-- A failure. -/
inductive Failure where
  /-- The source file is not there. -/
  | sourceMissing (path : Text)
  /-- The generation service cannot be reached, or refuses. -/
  | serviceUnavailable (message : Text)
  /-- The reply of the service cannot be used. -/
  | malformedReply (message : Text) (refusal : Option Validation.Refusal)
  /-- Nothing usable is left of a reply. -/
  | emptyReply (message : Text)
  /-- The build command cannot be run. -/
  | buildTool (message : Text)
  /-- The build takes too long. -/
  | buildTimeout (message : Text)
  /-- An operation takes too long. -/
  | timedOut (message : Text)
  /-- The file system refuses. -/
  | refused (errno : Errno) (files : List FileName)
  /-- The file system fails in a way of its own. -/
  | systemOther (message : Text)
  /-- Bytes are no text. -/
  | undecodable (error : Utf8.DecodeError)
  /-- Text cannot be written as bytes. -/
  | unencodable (error : Utf8.EncodeError)
  /-- A value is not acceptable. -/
  | badValue (message : Text)
  /-- A value has the wrong type. -/
  | badType (message : Text)
  /-- Something is looked up where it cannot be found. -/
  | slip (kind : Slip) (message : Text)
  /-- Something else fails. -/
  | other (message : Text)
  /-- The connection fails. -/
  | link (fault : LinkFault) (message : Text)
  /-- Requests cannot be sent to an address. -/
  | badAddress (message : Text)
  /-- Data does not fit a schema. -/
  | invalid (refusal : Validation.Refusal)
  /-- An environment variable for a section cannot be read. -/
  | settings (field : Text)
  /-- Text is no document of the configuration format. -/
  | badDocument (message : Text)
  /-- The configuration file is not there. -/
  | configurationMissing (path : Text)
  /-- Secrets cannot be kept out of a text. -/
  | redaction (message : Text)
  /-- The operator stops the program; nothing contains this. -/
  | interrupted
  deriving DecidableEq, Repr

/-- How much the text of a failure says. -/
inductive Wording where
  /-- The files of a refusal are not named. -/
  | short
  | full
  deriving DecidableEq, Repr

namespace Failure

/-- A refusal that names no file. -/
abbrev system (errno : Errno) : Failure :=
  refused errno []

/-- The failure with the random part that was drawn for the name of a temporary file. -/
def drawn (part : Text) : Failure → Failure
  | refused errno files => refused errno (files.map (·.drawn part))
  | failure => failure

/-- The failure in words, the files of a refusal not being named. -/
def message : Failure → Text
  | sourceMissing path => "Source file not found: " ++ path
  | serviceUnavailable message => message
  | malformedReply message _ => message
  | emptyReply message => message
  | buildTool message => message
  | buildTimeout message => message
  | timedOut message => message
  | refused errno _ => errno.message
  | systemOther message => message
  | undecodable error => error.message
  | unencodable error => error.message
  | badValue message => message
  | badType message => message
  | slip _ message => message
  | other message => message
  | link _ message => message
  | badAddress message => message
  | invalid refusal => refusal.headline
  | settings field =>
    "error parsing value for field \"" ++ field ++ "\" from source \"EnvSettingsSource\""
  | badDocument message => message
  | configurationMissing path => "Configuration file not found: " ++ path
  | redaction message => message
  | interrupted => []

/-- The text of a failure. -/
def text (wording : Wording) : Failure → Text
  | refused errno files =>
    match wording with
    | .short => errno.message
    | .full => errno.text files
  | failure => failure.message

/-- The name of the kind of a failed connection. -/
def linkName : LinkFault → Text
  | .connectTimeout => "ConnectTimeout"
  | .readTimeout => "ReadTimeout"
  | .writeTimeout => "WriteTimeout"
  | .poolTimeout => "PoolTimeout"
  | .connect => "ConnectError"
  | .read => "ReadError"
  | .write => "WriteError"
  | .close => "CloseError"
  | .protocol => "RemoteProtocolError"
  | .localProtocol => "LocalProtocolError"
  | .proxy => "ProxyError"
  | .unsupported => "UnsupportedProtocol"
  | .decoding => "DecodingError"
  | .redirects => "TooManyRedirects"

/-- The name of the kind of a slip. -/
def slipName : Slip → Text
  | .key => "KeyError"
  | .index => "IndexError"
  | .part => "AttributeError"
  | .overflow => "OverflowError"

/-- The name of the kind of a refusal of the file system. -/
def systemName : Errno → Text
  | .noEntry => "FileNotFoundError"
  | .exists => "FileExistsError"
  | .permission => "PermissionError"
  | .notDirectory => "NotADirectoryError"
  | .isDirectory => "IsADirectoryError"
  | _ => "OSError"

/-- The name of the kind of a failure, as logs give it. -/
def kindName : Failure → Text
  | sourceMissing _ => "SourceFileNotFoundError"
  | serviceUnavailable _ => "ServiceUnavailableError"
  | malformedReply .. => "MalformedResponseError"
  | emptyReply _ => "EmptyFixError"
  | buildTool _ => "BuildToolError"
  | buildTimeout _ => "CommandTimeoutError"
  | timedOut _ => "TimeoutError"
  | refused errno _ => systemName errno
  | systemOther _ => "OSError"
  | undecodable _ => "UnicodeDecodeError"
  | unencodable _ => "UnicodeEncodeError"
  | badValue _ => "ValueError"
  | badType _ => "TypeError"
  | slip kind _ => slipName kind
  | other _ => "RuntimeError"
  | link fault _ => linkName fault
  | badAddress _ => "InvalidURL"
  | invalid _ => "ValidationError"
  | settings _ => "SettingsError"
  | badDocument _ => "YAMLError"
  | configurationMissing _ => "FileNotFoundError"
  | redaction _ => "RedactionError"
  | interrupted => "KeyboardInterrupt"

/-- A failure that the file system or the encoding of text gives. -/
def isFileFailure : Failure → Bool
  | refused .. | systemOther _ | undecodable _ | unencodable _ | configurationMissing _ => true
  | _ => false

/-- A failure of the file system. -/
def isSystem : Failure → Bool
  | refused .. | systemOther _ | configurationMissing _ => true
  | _ => false

/-- A file that is not there. -/
def isMissingFile : Failure → Bool
  | refused .noEntry _ | configurationMissing _ => true
  | _ => false

/-- A value, a text or some data that is not acceptable. -/
def isBadValue : Failure → Bool
  | badValue _ | undecodable _ | unencodable _ | invalid _ | settings _ => true
  | _ => false

/-- A build that cannot be run, or takes too long. -/
def isOfBuild : Failure → Bool
  | buildTool _ | buildTimeout _ => true
  | _ => false

/-- A failure of files, build or service that the program foresees. -/
def isForeseen : Failure → Bool
  | sourceMissing _ | serviceUnavailable _ | malformedReply .. | emptyReply _ | buildTool _
  | buildTimeout _ | timedOut _ => true
  | _ => false

end Failure

end LintMend
