import PasswordManager.Codec.Hex
import PasswordManager.Codec.Time

/-!
# Rows

The rows of the four tables, with the records that insert and update them.
-/

namespace PasswordManager

structure User where
  uuid : String
  name : String
  ehloSecret : String
  isDeleted : Bool
  extra : String
  createdAt : NaiveDateTime
  updatedAt : NaiveDateTime
  deriving DecidableEq

structure NewUser where
  uuid : String
  name : String
  ehloSecret : String
  isDeleted : Bool
  extra : String

structure UpdateUser where
  isDeleted : Option Bool
  extra : Option String

structure Identity where
  uuid : String
  userId : Option String
  ipAddress : String
  deviceToken : Option String
  serverPrivateKey : Bytes
  serverPublicKey : Bytes
  clientPublicKey : Bytes
  extra : String
  isConfirmed : Bool
  createdAt : NaiveDateTime
  updatedAt : NaiveDateTime
  deriving DecidableEq

structure NewIdentity where
  uuid : String
  userId : Option String
  ipAddress : String
  deviceToken : Option String
  serverPrivateKey : Bytes
  serverPublicKey : Bytes
  clientPublicKey : Bytes
  extra : String
  isConfirmed : Bool

structure UpdateIdentity where
  userId : Option String
  ipAddress : Option String
  deviceToken : Option String
  clientPublicKey : Option Bytes
  extra : Option String
  isConfirmed : Option Bool

structure Group where
  uuid : String
  userId : String
  name : String
  extra : String
  createdAt : NaiveDateTime
  updatedAt : NaiveDateTime
  deriving DecidableEq

structure NewGroup where
  uuid : String
  userId : String
  name : String
  extra : String

structure Password where
  uuid : String
  groupId : String
  pwd : String
  name : String
  extra : String
  validSinceDays : Int
  createdAt : NaiveDateTime
  updatedAt : NaiveDateTime
  validSince : NaiveDateTime
  deriving DecidableEq

structure NewPassword where
  uuid : String
  groupId : String
  pwd : String
  name : String
  extra : String
  validSinceDays : Int
  validSince : NaiveDateTime

structure UpdatePassword where
  pwd : Option String
  groupId : Option String
  name : Option String
  extra : Option String
  validSinceDays : Option Int

/-! The row an INSERT stores: both time stamps default to `CURRENT_TIMESTAMP`. -/

def NewUser.row (new : NewUser) (clock : NaiveDateTime) : User where
  uuid := new.uuid
  name := new.name
  ehloSecret := new.ehloSecret
  isDeleted := new.isDeleted
  extra := new.extra
  createdAt := clock.toSecond
  updatedAt := clock.toSecond

def NewIdentity.row (new : NewIdentity) (clock : NaiveDateTime) : Identity where
  uuid := new.uuid
  userId := new.userId
  ipAddress := new.ipAddress
  deviceToken := new.deviceToken
  serverPrivateKey := new.serverPrivateKey
  serverPublicKey := new.serverPublicKey
  clientPublicKey := new.clientPublicKey
  extra := new.extra
  isConfirmed := new.isConfirmed
  createdAt := clock.toSecond
  updatedAt := clock.toSecond

def NewGroup.row (new : NewGroup) (clock : NaiveDateTime) : Group where
  uuid := new.uuid
  userId := new.userId
  name := new.name
  extra := new.extra
  createdAt := clock.toSecond
  updatedAt := clock.toSecond

def NewPassword.row (new : NewPassword) (clock : NaiveDateTime) : Password where
  uuid := new.uuid
  groupId := new.groupId
  pwd := new.pwd
  name := new.name
  extra := new.extra
  validSinceDays := new.validSinceDays
  createdAt := clock.toSecond
  updatedAt := clock.toSecond
  validSince := new.validSince

/-! The row an UPDATE leaves: a field that is `none` in the changes is kept. -/

def UpdateUser.apply (changes : UpdateUser) (now : NaiveDateTime) (row : User) : User :=
  { row with
    isDeleted := changes.isDeleted.getD row.isDeleted
    extra := changes.extra.getD row.extra
    updatedAt := now }

def UpdateIdentity.apply (changes : UpdateIdentity) (now : NaiveDateTime) (row : Identity) :
    Identity :=
  { row with
    userId := changes.userId.or row.userId
    ipAddress := changes.ipAddress.getD row.ipAddress
    deviceToken := changes.deviceToken.or row.deviceToken
    clientPublicKey := changes.clientPublicKey.getD row.clientPublicKey
    extra := changes.extra.getD row.extra
    isConfirmed := changes.isConfirmed.getD row.isConfirmed
    updatedAt := now }

def UpdatePassword.apply (changes : UpdatePassword) (now : NaiveDateTime) (row : Password) :
    Password :=
  { row with
    pwd := changes.pwd.getD row.pwd
    groupId := changes.groupId.getD row.groupId
    name := changes.name.getD row.name
    extra := changes.extra.getD row.extra
    validSinceDays := changes.validSinceDays.getD row.validSinceDays
    updatedAt := now
    validSince := now }

end PasswordManager
