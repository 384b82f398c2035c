/-!
The property codes that the library itself knows.
-/
namespace EchonetLite.Epc

def operationStatus : UInt8 := 0x80
def installationLocation : UInt8 := 0x81
def standardVersion : UInt8 := 0x82
def identification : UInt8 := 0x83
def faultStatus : UInt8 := 0x88
def manufacturer : UInt8 := 0x8A
def announceMap : UInt8 := 0x9D
def setMap : UInt8 := 0x9E
def getMap : UInt8 := 0x9F
def instanceCount : UInt8 := 0xD3
def classCount : UInt8 := 0xD4
def announcedInstances : UInt8 := 0xD5
def instanceList : UInt8 := 0xD6
def classList : UInt8 := 0xD7

end EchonetLite.Epc
