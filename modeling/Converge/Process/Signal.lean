set_option autoImplicit false

namespace Converge.Process.Signal

def all : List (String × Nat) := [
  ("HUP", 1), ("INT", 2), ("QUIT", 3), ("ILL", 4), ("TRAP", 5), ("ABRT", 6), ("BUS", 7), ("FPE", 8),
  ("KILL", 9), ("USR1", 10), ("SEGV", 11), ("USR2", 12), ("PIPE", 13), ("ALRM", 14), ("TERM", 15),
  ("STKFLT", 16), ("CHLD", 17), ("CONT", 18), ("STOP", 19), ("TSTP", 20), ("TTIN", 21),
  ("TTOU", 22), ("URG", 23), ("XCPU", 24), ("XFSZ", 25), ("VTALRM", 26), ("PROF", 27),
  ("WINCH", 28), ("IO", 29), ("PWR", 30), ("SYS", 31)]

def hangup : Nat := 1

def interrupt : Nat := 2

def quit : Nat := 3

def kill : Nat := 9

def brokenPipe : Nat := 13

def terminate : Nat := 15

def child : Nat := 17

def continue_ : Nat := 18

def stop : Nat := 19

def harmless : List Nat := [17, 18, 23, 28]

def holding : List Nat := [19, 20, 21, 22]

def isForced (number : Nat) : Bool := number = kill || number = stop

def words : List (Nat × String) := [
  (1, "Hangup"), (2, "Interrupt"), (3, "Quit"), (4, "Illegal instruction"),
  (5, "Trace/breakpoint trap"), (6, "Aborted"), (7, "Bus error"), (8, "Floating point exception"),
  (9, "Killed"), (10, "User defined signal 1"), (11, "Segmentation fault"),
  (12, "User defined signal 2"), (13, "Broken pipe"), (14, "Alarm clock"), (15, "Terminated"),
  (16, "Stack fault"), (17, "Child exited"), (18, "Continued"), (19, "Stopped (signal)"),
  (20, "Stopped"), (21, "Stopped (tty input)"), (22, "Stopped (tty output)"),
  (23, "Urgent I/O condition"), (24, "CPU time limit exceeded"), (25, "File size limit exceeded"),
  (26, "Virtual timer expired"), (27, "Profiling timer expired"), (28, "Window changed"),
  (29, "I/O possible"), (30, "Power failure"), (31, "Bad system call")]

def last : Nat := 64

def ofName? (name : String) : Option Nat := all.lookup name.toUpper

def name? (number : Nat) : Option String := (all.find? (·.2 == number)).map (·.1)

end Converge.Process.Signal
