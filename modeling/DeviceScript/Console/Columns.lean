import DeviceScript.Text.Category

/-! How many columns of a console a text takes, and the tabs that lead to fixed columns. -/

namespace DeviceScript

namespace CodePoint

set_option maxRecDepth 4000 in
/-- Code points that take no column: control codes and marks on other code points. -/
def zeroWidthRuns : List Nat := [
  0, 32, 95, 33, 13, 1, 594, 112, 275, 7, 263, 45, 1, 1, 1, 2, 1, 2, 1, 1, 56, 6, 10, 11, 1, 1,
  46, 21, 16, 1, 101, 8, 1, 6, 2, 2, 1, 4, 33, 1, 1, 1, 30, 27, 91, 11, 58, 9, 9, 1, 24, 4, 1, 9,
  1, 3, 1, 5, 43, 3, 52, 2, 6, 8, 42, 58, 54, 3, 1, 18, 1, 7, 10, 2, 29, 3, 56, 1, 1, 7, 2, 2, 2,
  3, 9, 1, 10, 2, 26, 1, 2, 3, 56, 1, 1, 5, 4, 2, 2, 3, 3, 1, 30, 2, 3, 1, 11, 3, 56, 1, 1, 8, 1,
  3, 1, 3, 20, 2, 22, 6, 1, 3, 56, 1, 1, 7, 2, 2, 2, 3, 7, 3, 10, 2, 30, 1, 59, 5, 3, 3, 1, 4, 9,
  1, 40, 5, 55, 1, 1, 7, 1, 3, 1, 4, 7, 2, 11, 2, 29, 3, 56, 1, 1, 7, 1, 3, 1, 4, 7, 2, 11, 2,
  15, 1, 12, 4, 55, 2, 1, 7, 1, 3, 1, 4, 9, 1, 10, 2, 29, 3, 70, 1, 4, 6, 1, 1, 1, 8, 18, 2, 61,
  1, 2, 7, 12, 8, 98, 1, 2, 9, 11, 7, 73, 2, 27, 1, 1, 1, 1, 1, 4, 2, 49, 20, 1, 2, 5, 11, 1, 36,
  9, 1, 100, 20, 23, 4, 4, 3, 1, 3, 2, 7, 3, 4, 13, 12, 1, 1, 10, 4, 194, 160, 349, 3, 946, 4,
  28, 3, 29, 2, 30, 2, 64, 32, 9, 1, 45, 5, 117, 2, 34, 1, 118, 12, 4, 12, 219, 5, 57, 10, 1, 29,
  2, 1, 48, 31, 49, 5, 47, 17, 38, 9, 12, 3, 30, 13, 56, 14, 48, 20, 152, 3, 1, 21, 4, 1, 6, 1,
  2, 3, 198, 64, 523, 5, 24, 7, 49, 5, 1, 10, 96, 33, 3070, 3, 141, 1, 96, 32, 554, 6, 105, 2,
  30164, 4, 1, 10, 32, 2, 80, 2, 272, 1, 3, 1, 4, 1, 23, 5, 4, 1, 83, 2, 50, 18, 26, 18, 13, 1,
  38, 8, 25, 13, 44, 4, 47, 14, 36, 1, 67, 14, 12, 1, 8, 2, 45, 3, 50, 1, 1, 3, 2, 2, 5, 2, 1, 1,
  41, 5, 5, 2, 236, 8, 1, 2, 11202, 80, 8990, 1, 737, 16, 16, 16, 207, 1, 249, 3, 513, 1, 226, 1,
  149, 5, 1670, 3, 1, 2, 5, 4, 40, 3, 4, 1, 165, 2, 573, 4, 387, 2, 80, 3, 70, 11, 49, 4, 122, 3,
  53, 15, 41, 1, 2, 2, 10, 4, 45, 11, 2, 1, 4, 1, 10, 1, 50, 3, 36, 14, 16, 2, 44, 1, 12, 3, 48,
  14, 8, 4, 1, 2, 92, 12, 6, 1, 2, 1, 157, 12, 21, 4, 55, 2, 1, 7, 2, 2, 2, 3, 9, 1, 10, 2, 2, 7,
  3, 5, 192, 18, 23, 1, 81, 20, 235, 7, 2, 9, 27, 2, 82, 17, 106, 13, 101, 15, 256, 15, 245, 6,
  1, 2, 2, 4, 1, 1, 1, 2, 141, 7, 2, 7, 3, 1, 28, 10, 40, 7, 1, 4, 8, 1, 9, 11, 46, 16, 405, 8,
  1, 8, 82, 22, 1, 14, 122, 6, 3, 1, 1, 2, 1, 7, 1, 1, 66, 5, 1, 2, 1, 5, 347, 4, 9, 2, 1, 1, 48,
  7, 3, 5, 5357, 17, 6, 15, 13978, 5, 59, 7, 1048, 1, 1, 55, 7, 4, 81, 1, 11, 2, 19627, 2, 1, 4,
  4700, 46, 2, 23, 542, 5, 3, 22, 2, 7, 30, 4, 148, 3, 1979, 55, 4, 50, 8, 1, 14, 1, 22, 5, 1,
  15, 1360, 7, 1, 17, 2, 7, 1, 2, 1, 5, 100, 1, 160, 7, 375, 1, 61, 4, 508, 4, 992, 7, 109, 7,
  2736, 5, 789505, 1, 30, 96, 128, 240]

set_option maxRecDepth 4000 in
/-- Code points that take two columns. -/
def wideRuns : List Nat := [
  4352, 96, 4538, 2, 13, 2, 190, 4, 3, 1, 2, 1, 521, 2, 21, 2, 50, 12, 43, 1, 19, 1, 13, 1, 8, 2,
  17, 2, 5, 2, 8, 1, 5, 1, 21, 1, 7, 2, 1, 1, 4, 1, 2, 1, 7, 1, 4, 2, 28, 1, 35, 1, 1, 1, 4, 3,
  1, 1, 61, 3, 24, 1, 14, 1, 859, 2, 51, 1, 4, 1, 810, 26, 1, 89, 12, 214, 26, 58, 6, 15, 2, 86,
  4, 101, 5, 43, 1, 94, 1, 84, 11, 48, 1, 40, 8, 7024, 64, 22157, 3, 55, 1177, 29, 643, 11172,
  8540, 512, 784, 10, 22, 35, 1, 19, 1, 4, 149, 96, 127, 7, 28665, 4, 28, 6136, 8, 1238, 42, 9,
  8935, 4, 1, 7, 1, 2, 1, 291, 15, 1, 29, 3, 2, 1, 14, 4, 8, 396, 15624, 1, 202, 1, 190, 1, 2,
  10, 101, 3, 13, 44, 4, 9, 7, 2, 14, 6, 154, 33, 12, 9, 1, 70, 1, 22, 12, 43, 4, 5, 12, 17, 3,
  1, 3, 3, 5, 63, 1, 1, 1, 187, 2, 63, 13, 4, 1, 24, 18, 1, 26, 2, 13, 1, 86, 85, 48, 70, 6, 1,
  3, 3, 2, 3, 4, 4, 11, 2, 7, 9, 227, 12, 4, 1, 283, 47, 1, 10, 1, 185, 112, 13, 3, 9, 7, 46, 1,
  7, 8, 14, 4, 9, 7, 9, 1287, 65534, 2, 65534]

/-- The number of columns that a code point takes. -/
def columns (point : CodePoint) : Nat :=
  if inRuns false wideRuns point.value then 2
  else if inRuns false zeroWidthRuns point.value then 0
  else 1

end CodePoint

namespace Text

/-- A text from a column on, with spaces in the place of each tab up to the next column that is a
multiple of eight. -/
def expandTabs (column : Nat) : Text → Text
  | [] => []
  | .scalar '\t' :: rest =>
    let next := (column / 8 + 1) * 8
    List.replicate (next - column) (.scalar ' ') ++ expandTabs next rest
  | .scalar '\n' :: rest => '\n' :: expandTabs 0 rest
  | point :: rest => point :: expandTabs (column + point.columns) rest

end Text

end DeviceScript
