import Overseer.Text.Octets

/-!
# Signals

A signal is a number that one process sends to another. Each has a name, and does
something to a process that has not said otherwise.
-/

namespace Overseer

abbrev Signal := Nat

namespace Signal

/-- The names of the signals, from the first on. -/
def names : List Octets :=
  ["HUP", "INT", "QUIT", "ILL", "TRAP", "ABRT", "BUS", "FPE", "KILL", "USR1", "SEGV", "USR2",
   "PIPE", "ALRM", "TERM", "STKFLT", "CHLD", "CONT", "STOP", "TSTP", "TTIN", "TTOU", "URG",
   "XCPU", "XFSZ", "VTALRM", "PROF", "WINCH", "IO", "PWR", "SYS"]

def interrupt : Signal := 2
def quit : Signal := 3
def kill : Signal := 9
def fault : Signal := 11
def brokenPipe : Signal := 13
def terminate : Signal := 15
def resume : Signal := 18
def stop : Signal := 19

def name (signal : Signal) : Octets :=
  match names[signal - 1]? with
  | some name => if signal = 0 then "EXIT" else name
  | none => "RTMIN"

/-- The signal of a name in any case. -/
def ofName? (name : Octets) : Option Signal :=
  (names.findIdx? (· = name.toUpper)).map (· + 1)

/-- What a signal does to a process that has not said otherwise. -/
inductive Effect
  | ends
  | ignored
  | stops
  | resumes
  deriving DecidableEq

def effect (signal : Signal) : Effect :=
  if [17, 23, 28].contains signal then .ignored
  else if signal = resume then .resumes
  else if [19, 20, 21, 22].contains signal then .stops
  else .ends

/-- What is written about a process that a signal ended. -/
def report (signal : Signal) : Octets :=
  match name signal with
  | "HUP" => "Hangup"
  | "INT" => "Interrupt"
  | "QUIT" => "Quit"
  | "ILL" => "Illegal instruction"
  | "TRAP" => "Trace/breakpoint trap"
  | "ABRT" => "Aborted"
  | "BUS" => "Bus error"
  | "FPE" => "Floating point exception"
  | "KILL" => "Killed"
  | "USR1" => "User defined signal 1"
  | "SEGV" => "Segmentation fault"
  | "USR2" => "User defined signal 2"
  | "PIPE" => "Broken pipe"
  | "ALRM" => "Alarm clock"
  | "TERM" => "Terminated"
  | _ => "Unknown signal " ++ Nat.repr signal

end Signal

/-- What a process has said about a signal. -/
inductive Disposition
  | standard
  | ignored
  /-- Kept for the process to ask for. -/
  | caught
  deriving DecidableEq

end Overseer
