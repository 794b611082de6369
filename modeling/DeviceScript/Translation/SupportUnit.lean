import DeviceScript.Files.FileSystem
import DeviceScript.Text.Utf8

/-! The C++ file that generated programs include.
It brings the standard headers and the functions that the built-in replacements name.
-/

namespace DeviceScript.SupportUnit

/-- The version of the file, and of the translator that it belongs to. -/
def version : Text := "0.1.0"

/-- The usual name of the file. -/
def fileName : Text := "basic.cpp"

/-- The content of the file. -/
def content : Text :=
  Text.unlines [
    "// Runtime support unit for code generated by ts2cpp.",
    "// Generated files start with `#include \"basic.cpp\"`.",
    "#pragma once",
    "",
    "#include <algorithm>",
    "#include <cmath>",
    "#include <iostream>",
    "#include <string>",
    "#include <vector>",
    "",
    "namespace basic \x7b",
    "  void showAkhila() \x7b",
    "    std::cout << \"Hi Akhila\" << std::endl;",
    "  \x7d",
    "",
    "  void showString(const std::string &msg) \x7b",
    "    std::cout << msg << std::endl;",
    "  \x7d",
    "",
    "  void showNumber(double num) \x7b",
    "    std::cout << num << std::endl;",
    "  \x7d",
    "\x7d",
    "",
    "namespace led \x7b",
    "  void on() \x7b",
    "    std::cout << \"LED is ON\" << std::endl;",
    "  \x7d",
    "\x7d"] ++ "\n"

/-- Writes the file into a directory, which is created if it is missing. -/
def write {m : Type → Type} [Monad m] [FileAccess m] (directory name : Path)
    : m (Except FileError Path) := do
  let path := directory.join name
  match ← FileAccess.ensureDirectories directory with
  | some error => return .error error
  | none =>
    match ← FileAccess.write path ((Utf8.encode? content).getD []) with
    | some error => return .error error
    | none => return .ok path

end DeviceScript.SupportUnit
