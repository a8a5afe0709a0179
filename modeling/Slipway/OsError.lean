import Slipway.Text.Basic
set_option autoImplicit false

namespace Slipway

def osErrorTexts : List (Int × Text) := [
  (0, "Success".toList),
  (1, "Operation not permitted".toList),
  (2, "No such file or directory".toList),
  (3, "No such process".toList),
  (4, "Interrupted system call".toList),
  (5, "Input/output error".toList),
  (6, "No such device or address".toList),
  (7, "Argument list too long".toList),
  (8, "Exec format error".toList),
  (9, "Bad file descriptor".toList),
  (10, "No child processes".toList),
  (11, "Resource temporarily unavailable".toList),
  (12, "Cannot allocate memory".toList),
  (13, "Permission denied".toList),
  (14, "Bad address".toList),
  (15, "Block device required".toList),
  (16, "Device or resource busy".toList),
  (17, "File exists".toList),
  (18, "Invalid cross-device link".toList),
  (19, "No such device".toList),
  (20, "Not a directory".toList),
  (21, "Is a directory".toList),
  (22, "Invalid argument".toList),
  (23, "Too many open files in system".toList),
  (24, "Too many open files".toList),
  (25, "Inappropriate ioctl for device".toList),
  (26, "Text file busy".toList),
  (27, "File too large".toList),
  (28, "No space left on device".toList),
  (29, "Illegal seek".toList),
  (30, "Read-only file system".toList),
  (31, "Too many links".toList),
  (32, "Broken pipe".toList),
  (33, "Numerical argument out of domain".toList),
  (34, "Numerical result out of range".toList),
  (35, "Resource deadlock avoided".toList),
  (36, "File name too long".toList),
  (37, "No locks available".toList),
  (38, "Function not implemented".toList),
  (39, "Directory not empty".toList),
  (40, "Too many levels of symbolic links".toList),
  (42, "No message of desired type".toList),
  (43, "Identifier removed".toList),
  (44, "Channel number out of range".toList),
  (45, "Level 2 not synchronized".toList),
  (46, "Level 3 halted".toList),
  (47, "Level 3 reset".toList),
  (48, "Link number out of range".toList),
  (49, "Protocol driver not attached".toList),
  (50, "No CSI structure available".toList),
  (51, "Level 2 halted".toList),
  (52, "Invalid exchange".toList),
  (53, "Invalid request descriptor".toList),
  (54, "Exchange full".toList),
  (55, "No anode".toList),
  (56, "Invalid request code".toList),
  (57, "Invalid slot".toList),
  (59, "Bad font file format".toList),
  (60, "Device not a stream".toList),
  (61, "No data available".toList),
  (62, "Timer expired".toList),
  (63, "Out of streams resources".toList),
  (64, "Machine is not on the network".toList),
  (65, "Package not installed".toList),
  (66, "Object is remote".toList),
  (67, "Link has been severed".toList),
  (68, "Advertise error".toList),
  (69, "Srmount error".toList),
  (70, "Communication error on send".toList),
  (71, "Protocol error".toList),
  (72, "Multihop attempted".toList),
  (73, "RFS specific error".toList),
  (74, "Bad message".toList),
  (75, "Value too large for defined data type".toList),
  (76, "Name not unique on network".toList),
  (77, "File descriptor in bad state".toList),
  (78, "Remote address changed".toList),
  (79, "Can not access a needed shared library".toList),
  (80, "Accessing a corrupted shared library".toList),
  (81, ".lib section in a.out corrupted".toList),
  (82, "Attempting to link in too many shared libraries".toList),
  (83, "Cannot exec a shared library directly".toList),
  (84, "Invalid or incomplete multibyte or wide character".toList),
  (85, "Interrupted system call should be restarted".toList),
  (86, "Streams pipe error".toList),
  (87, "Too many users".toList),
  (88, "Socket operation on non-socket".toList),
  (89, "Destination address required".toList),
  (90, "Message too long".toList),
  (91, "Protocol wrong type for socket".toList),
  (92, "Protocol not available".toList),
  (93, "Protocol not supported".toList),
  (94, "Socket type not supported".toList),
  (95, "Operation not supported".toList),
  (96, "Protocol family not supported".toList),
  (97, "Address family not supported by protocol".toList),
  (98, "Address already in use".toList),
  (99, "Cannot assign requested address".toList),
  (100, "Network is down".toList),
  (101, "Network is unreachable".toList),
  (102, "Network dropped connection on reset".toList),
  (103, "Software caused connection abort".toList),
  (104, "Connection reset by peer".toList),
  (105, "No buffer space available".toList),
  (106, "Transport endpoint is already connected".toList),
  (107, "Transport endpoint is not connected".toList),
  (108, "Cannot send after transport endpoint shutdown".toList),
  (109, "Too many references: cannot splice".toList),
  (110, "Connection timed out".toList),
  (111, "Connection refused".toList),
  (112, "Host is down".toList),
  (113, "No route to host".toList),
  (114, "Operation already in progress".toList),
  (115, "Operation now in progress".toList),
  (116, "Stale file handle".toList),
  (117, "Structure needs cleaning".toList),
  (118, "Not a XENIX named type file".toList),
  (119, "No XENIX semaphores available".toList),
  (120, "Is a named type file".toList),
  (121, "Remote I/O error".toList),
  (122, "Disk quota exceeded".toList),
  (123, "No medium found".toList),
  (124, "Wrong medium type".toList),
  (125, "Operation canceled".toList),
  (126, "Required key not available".toList),
  (127, "Key has expired".toList),
  (128, "Key has been revoked".toList),
  (129, "Key was rejected by service".toList),
  (130, "Owner died".toList),
  (131, "State not recoverable".toList),
  (132, "Operation not possible due to RF-kill".toList),
  (133, "Memory page has hardware error".toList)]

structure OsError where
  code : Int
deriving DecidableEq, Repr

namespace OsError

def noEntry : OsError := ⟨2⟩
def badFormat : OsError := ⟨8⟩
def accessDenied : OsError := ⟨13⟩
def alreadyExists : OsError := ⟨17⟩
def notADirectory : OsError := ⟨20⟩
def isADirectory : OsError := ⟨21⟩
def nameTooLong : OsError := ⟨36⟩
def tooManyLinks : OsError := ⟨40⟩

def isAbsence (e : OsError) : Bool := e = noEntry || e = notADirectory

def text (e : OsError) : Text :=
  ((osErrorTexts.find? fun r => r.1 == e.code).map (·.2)).getD ("Unknown error ".toList ++ intText e.code)

def message (e : OsError) : Text := e.text ++ " (os error ".toList ++ intText e.code ++ ")".toList

end OsError

end Slipway
