import CfwRs.Lib.Json

namespace CfwRs.Lib

def crcBit (crc : UInt32) : UInt32 := (crc >>> 1) ^^^ (0xedb88320 &&& (0 - (crc &&& 1)))

def crcByte (crc : UInt32) (b : UInt8) : UInt32 := crcBit^[8] (crc ^^^ b.toUInt32)

def crc32 (data : Bytes) : UInt32 := ~~~(data.foldl crcByte 0xffffffff)

example : crc32 (ascii "123456789") = 0xcbf43926 := by decide +kernel

end CfwRs.Lib
