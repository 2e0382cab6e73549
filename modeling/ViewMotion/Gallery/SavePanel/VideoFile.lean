/-!
This module contains the videos that a save panel lists, and the roles of its links.
-/

namespace ViewMotion

structure VideoFile where
  name : String
  length : UInt32
deriving DecidableEq, Repr

namespace VideoFile

def listed : List VideoFile := [
  ⟨"all roads lead to rome, all roads lead to rome file1.flv", 3 * 1024 + 3⟩,
  ⟨"file2.flv", 6501171⟩,
  ⟨"https://chromium.googlesource.com/android_tools.git.flv", 300⟩,
  ⟨"file4.flv", 1024⟩,
  ⟨"file5.flv", 1235⟩,
  ⟨"filename0.flv", 0⟩,
  ⟨"filename1.flv", 1024 * 1024 * 1024⟩,
  ⟨"filename2.flv", 2 * 1024 * 1024 * 1024⟩
]

def added : VideoFile := ⟨"filename333.flv", 1024 * 1024⟩

end VideoFile

inductive LinkRole where
  | save
  | copyLink
  | saveAll
  | setting
deriving DecidableEq, Repr

namespace LinkRole

def code : LinkRole → UInt32
  | save => 0
  | copyLink => 1
  | saveAll => 2
  | setting => 3

def ofCode? (code : UInt32) : Option LinkRole :=
  match code.toNat with
  | 0 => some save
  | 1 => some copyLink
  | 2 => some saveAll
  | 3 => some setting
  | _ => none

theorem ofCode?_code (role : LinkRole) : ofCode? role.code = some role := by
  cases role <;> rfl

def name : LinkRole → String
  | save => "Save"
  | copyLink => "CopyLink"
  | saveAll => "SaveAll"
  | setting => "Setting"

end LinkRole

end ViewMotion
